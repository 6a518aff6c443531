import DartPlant.Vm.BindingResolution
import DartPlant.Vm.FairSelection

/-! # Revalidation against creation

Creation binds each capability to what it selects among the kept rows that offer it; a revalidation
does so again, and then binds the eager capabilities once more among all rows that pass.  When the
process is as it was, every probe is, every kept row passes and offers the eager capabilities, so
both bind the same (`BoundTo.unique`).

They part where the kept rows have different RuntimeRoots keys: creation leaves RuntimeRoots out of
the mask and goes on, a revalidation fails without it.  And a retirement resets the capabilities of
the mask only, so a proof that failed outside of it stays marked.
-/

namespace DartPlant
open CapabilityBindingSet FlutterVmState List

/-! ## Bound to a selection -/

section BoundTo
variable {Row : Type} {capability other : VmCapability} {selection : DomainSetSelection Row}
  {bindings bindings' before before' bound bound' : CapabilityBindingSet Row}

/-- The binding of the capability is the one that the selection makes. -/
def BoundTo (capability : VmCapability) (selection : DomainSetSelection Row)
    (bindings : CapabilityBindingSet Row) : Prop :=
  ∃ before bound, bindSelection before capability selection = some bound ∧
    bindings.findBinding capability = bound.findBinding capability

theorem bindSelection_find (h : before.bindSelection capability selection = some bound)
    (h' : before'.bindSelection capability selection = some bound') :
    bound.findBinding capability = bound'.findBinding capability := by
  unfold bindSelection at h h'
  split at h
  · cases h
  next hok =>
    rw [if_neg hok] at h'
    split at h
    · cases h
    next representative hrepresentative =>
      obtain rfl := Option.some.inj h
      split at h'
      · cases h'
      next representative' hrepresentative' =>
        obtain rfl := Option.some.inj h'
        obtain rfl := Option.some.inj (hrepresentative.symm.trans hrepresentative')
        exact findBinding_put_self.trans findBinding_put_self.symm

/-- What is bound depends on the selection alone. -/
theorem BoundTo.unique (h : BoundTo capability selection bindings)
    (h' : BoundTo capability selection bindings') :
    bindings.findBinding capability = bindings'.findBinding capability := by
  obtain ⟨before, bound, hbound, hfind⟩ := h
  obtain ⟨before', bound', hbound', hfind'⟩ := h'
  exact hfind.trans ((bindSelection_find hbound hbound').trans hfind'.symm)

theorem boundTo_bind (h : before.bindSelection capability selection = some bound) :
    BoundTo capability selection bound := ⟨before, bound, h, rfl⟩

theorem BoundTo.congr (h : BoundTo capability selection bindings)
    (hsame : bindings'.findBinding capability = bindings.findBinding capability) :
    BoundTo capability selection bindings' := by
  obtain ⟨before, bound, hbound, hfind⟩ := h
  exact ⟨before, bound, hbound, hsame.trans hfind⟩

end BoundTo

/-! ## What creation binds -/

section Registry

theorem registry_single : ∀ capability ∈ capabilityRegistry, SingleBit capability := by
  have hbits : capabilityRegistry = maskBits 0x7ffff#64 := by decide +kernel
  intro capability hmem
  rw [hbits] at hmem
  exact mem_maskBits_single hmem

variable {registry : ProfileRegistry} {candidates : AbiCandidateSet registry.Row}
  {compatible : VmCapability → List Bool} {capability : VmCapability}

/-- The resolver selects an ABI for the capability. -/
def Structural (capability : VmCapability) : Prop :=
  capability ∈ capabilityRegistry ∧ capability ≠ kCapabilityArtifactLifecycle ∧
    capability ≠ kCapabilityDeferredLoadingUnitLayout

/-- What the resolver selects for a capability. -/
abbrev resolverSelection (candidates : AbiCandidateSet registry.Row)
    (compatible : VmCapability → List Bool) (capability : VmCapability) :
    DomainSetSelection registry.Row :=
  selectCapabilityAbiSet registry.rowAbiKey candidates capability (compatible capability)

/-- The loop of the resolver binds each structural capability that selects one ABI. -/
theorem resolveBindings_bound (h : Structural capability)
    (hpassed : (resolverSelection candidates compatible capability).passed = true) :
    BoundTo capability (resolverSelection candidates compatible capability)
      (resolveBindings registry candidates compatible) := by
  have hne : capability ≠ kCapabilityNone := (registry_single capability h.1).2
  have hupTo : ∀ capabilities : List VmCapability, capability ∈ capabilities →
      BoundTo capability (resolverSelection candidates compatible capability)
        (capabilities.foldl (fun bindings capability =>
          if capability = kCapabilityArtifactLifecycle ∨
              capability = kCapabilityDeferredLoadingUnitLayout then bindings
          else (bindings.bindSelection capability (selectCapabilityAbiSet registry.rowAbiKey
            candidates capability (compatible capability))).getD bindings) []) := by
    intro capabilities hmem
    induction capabilities using List.reverseRecOn with
    | nil => exact absurd hmem not_mem_nil
    | append_singleton capabilities last ih =>
      rw [foldl_append, foldl_cons, foldl_nil]
      by_cases hlast : last = capability
      · subst hlast
        rw [if_neg (not_or.mpr h.2)]
        obtain ⟨bound, hbound⟩ := bindSelection_isSome _ hne hpassed
        rw [hbound, Option.getD_some]
        exact boundTo_bind hbound
      · rw [mem_append, mem_singleton] at hmem
        have hbefore := ih (hmem.resolve_right (Ne.symm hlast))
        split
        · exact hbefore
        · cases hbound : bindSelection _ last _ with
          | none => exact hbefore
          | some bound =>
            rw [Option.getD_some]
            exact hbefore.congr ((bindSelection_spec hbound).2.2 capability (Ne.symm hlast))
  exact hupTo capabilityRegistry h.1

/-- The mask has the structural capabilities that select one ABI. -/
theorem boundMask_iff (h : Structural capability) :
    ResolverInput.boundMask candidates compatible &&& capability ≠ 0 ↔
      (resolverSelection candidates compatible capability).passed = true := by
  have hsingle := registry_single capability h.1
  have hupTo : ∀ capabilities : List VmCapability,
      (∀ other ∈ capabilities, SingleBit other) →
      (capabilities.foldl (fun mask capability =>
        if capability = kCapabilityArtifactLifecycle ∨
            capability = kCapabilityDeferredLoadingUnitLayout then mask
        else mask ||| offer capability (selectCapabilityAbiSet registry.rowAbiKey candidates
          capability (compatible capability)).passed) kCapabilityNone &&& capability ≠ 0 ↔
        capability ∈ capabilities ∧
          (resolverSelection candidates compatible capability).passed = true) := by
    intro capabilities hsingles
    induction capabilities using List.reverseRecOn with
    | nil =>
      refine iff_of_false (fun hne => hne BitVec.zero_and) fun hmem => ?_
      exact not_mem_nil hmem.1
    | append_singleton capabilities last ih =>
      have hlastSingle := hsingles last (mem_append_right _ (mem_singleton_self last))
      have ih := ih fun other hother => hsingles other (mem_append_left _ hother)
      rw [foldl_append, foldl_cons, foldl_nil, mem_append, mem_singleton]
      by_cases hlast : last = capability
      · subst hlast
        rw [if_neg (not_or.mpr h.2), BitVec.and_or_distrib_right]
        cases hpassed : (resolverSelection candidates compatible last).passed with
        | true =>
          refine iff_of_true (fun hzero => hlastSingle.2 ?_) ⟨.inr rfl, rfl⟩
          rw [offer, if_pos rfl, BitVec.and_self] at hzero
          exact (BitVec.or_eq_zero_iff.mp hzero).2
        | false =>
          rw [hpassed] at ih
          simp only [Bool.false_eq_true, and_false, iff_false, not_not] at ih ⊢
          rw [ih, offer, if_neg Bool.false_ne_true]
          exact BitVec.or_eq_zero_iff.mpr ⟨rfl, BitVec.zero_and⟩
      · have hapart : last &&& capability = 0 := hlastSingle.disjoint hsingle (Ne.symm hlast)
        have hmem : (capability ∈ capabilities ∨ capability = last) ↔ capability ∈ capabilities :=
          or_iff_left (Ne.symm hlast)
        rw [hmem]
        split
        · exact ih
        · unfold offer
          split
          · rw [or_and_of_disjoint hapart]
            exact ih
          · rw [show (_ ||| kCapabilityNone : BitVec 64) = _ from BitVec.or_zero]
            exact ih
  rw [ResolverInput.boundMask, hupTo capabilityRegistry registry_single]
  exact and_iff_right h.1

end Registry

/-! ## Probes of the same process -/

theorem meets_or_left {left right capability : BitVec 64} (h : left &&& capability ≠ 0) :
    (left ||| right) &&& capability ≠ 0 := by
  intro hzero
  rw [BitVec.and_or_distrib_right] at hzero
  exact h (BitVec.or_eq_zero_iff.mp hzero).1

section Probes
variable {registry : ProfileRegistry} {environment : AdapterEnvironment registry}
  {rows : CandidateRows registry} {reading : ThreadReading}

/-- What is required of an owner or a null that is not given is met anyway. -/
theorem proveRuntimeRoots_required (thread currentIsolate canonicalNull : BitVec 64)
    (requireDartCore : Bool) (registers : RegisterEvidence) (reading : ThreadReading) :
    proveRuntimeRoots ⟨thread, currentIsolate, canonicalNull, currentIsolate != 0,
        canonicalNull != 0, requireDartCore, registers⟩ reading =
      proveRuntimeRoots ⟨thread, currentIsolate, canonicalNull, true, true, requireDartCore,
        registers⟩ reading := by
  have hmet : ∀ given found : BitVec 64,
      ((given != 0) = true ∧ (given == 0 || found == given) = false) ↔
        (true = true ∧ (given == 0 || found == given) = false) := by
    intro given found
    refine and_congr_left fun hnot => iff_of_true ?_ rfl
    rw [Bool.or_eq_false_iff] at hnot
    rw [bne, hnot.1]
    rfl
  unfold proveRuntimeRoots
  cases reading.core with
  | none => rfl
  | some core => simp only [hmet]

/-- Roots that are proven have the owner, the null and dart:core. -/
theorem proveRuntimeRoots_matches {thread currentIsolate canonicalNull : BitVec 64}
    {registers : RegisterEvidence}
    (h : (proveRuntimeRoots ⟨thread, currentIsolate, canonicalNull, true, true, true, registers⟩
      reading).passed = true) :
    (proveRuntimeRoots ⟨thread, currentIsolate, canonicalNull, true, true, true, registers⟩
        reading).ownerMatch = true ∧
      (proveRuntimeRoots ⟨thread, currentIsolate, canonicalNull, true, true, true, registers⟩
        reading).canonicalNullMatch = true ∧
      (proveRuntimeRoots ⟨thread, currentIsolate, canonicalNull, true, true, true, registers⟩
        reading).dartCoreFound = true := by
  unfold proveRuntimeRoots at h ⊢
  cases hcore : reading.core with
  | none =>
    rw [hcore] at h
    cases h
  | some core =>
    simp only [hcore] at h ⊢
    split at h
    · cases h
    next hthread =>
      split at h
      · cases h
      next howner =>
        split at h
        · cases h
        next hregisters =>
          split at h
          · cases h
          next hnull =>
            rw [if_neg hthread, if_neg howner, if_neg hregisters, if_neg hnull]
            simp only [true_and, not_or, Bool.not_eq_false] at howner hnull
            exact ⟨howner, hnull.1, h⟩

/-- A probe that passed has proven the roots. -/
theorem probeCandidate_roots {input : RootProofInput} {modules : List ModuleImage}
    (h : (probeCandidate input modules reading).passed = true) :
    (proveRuntimeRoots input reading).passed = true ∧
      (probeCandidate input modules reading).roots = proveRuntimeRoots input reading := by
  unfold probeCandidate at h ⊢
  dsimp only at h ⊢
  split at h
  · cases h
  next hroots =>
    rw [if_neg hroots]
    refine ⟨Bool.eq_true_of_not_eq_false hroots, ?_⟩
    split
    · rfl
    · rfl

/-- A candidate of the environment, as creation probes it. -/
def AdapterEnvironment.candidateProbe (environment : AdapterEnvironment registry)
    (rows : CandidateRows registry) (artifacts : ArtifactSet) (row : registry.Row) :
    CandidateProbe :=
  (environment.resolverInput.probe row).candidate (rows.fields row) {} artifacts

/-- In the same process, a revalidation finds what creation found. -/
theorem reprobe_eq {adapter : FlutterVmState registry}
    (hthread : adapter.thread = environment.thread)
    (hisolate : adapter.identity.isolate = environment.currentIsolate) :
    environment.reprobe rows adapter = environment.candidateProbe rows adapter.artifacts := by
  funext row
  have hroots : ∀ reading : ThreadReading,
      proveRuntimeRoots ⟨environment.thread, environment.currentIsolate,
          environment.canonicalNull, environment.currentIsolate != 0,
          environment.canonicalNull != 0, true, {}⟩ reading =
        proveRuntimeRoots ⟨environment.thread, environment.currentIsolate,
          environment.canonicalNull, true, true, true, {}⟩ reading :=
    fun reading => proveRuntimeRoots_required _ _ _ _ _ reading
  unfold AdapterEnvironment.reprobe AdapterEnvironment.candidateProbe ResolverInput.probe
  rw [hthread, hisolate]
  unfold probeCandidate
  rw [← hroots]
  rfl

/-- A row that passes offers every eager capability. -/
theorem candidateProbe_eager {artifacts : ArtifactSet} {row : registry.Row}
    (h : (environment.resolverInput.probe row).passed = true) {capability : VmCapability}
    (hmem : capability ∈ maskBits kEagerRuntimeProofMask) :
    (environment.candidateProbe rows artifacts row).candidateCapabilities &&& capability ≠ 0 := by
  have hpassed : (environment.candidateProbe rows artifacts row).passed = true := h
  obtain ⟨hproven, hroots⟩ := probeCandidate_roots h
  rw [show proveRuntimeRoots _ _ = _ from proveRuntimeRoots_required _ _ _ _ _ _]
    at hproven hroots
  obtain ⟨howner, hnull, hcore⟩ := proveRuntimeRoots_matches hproven
  have hroots : (environment.resolverInput.probe row).roots = _ := hroots
  unfold CandidateProbe.candidateCapabilities
  rw [if_pos hpassed]
  change (environment.resolverInput.probe row).offeredCapabilities _ _ _ &&& capability ≠ 0
  unfold ResolverProbe.offeredCapabilities
  rw [hroots, howner, hnull, hcore]
  refine meets_or_left (meets_or_left (meets_or_left ?_))
  have heager : kCapabilityRuntimeRoots ||| kCapabilitySafepointStubs |||
      offer kCapabilityOwnerIdentity true ||| offer kCapabilityCanonicalNull true |||
      offer kCapabilityDartCore true = kEagerRuntimeProofMask := by decide +kernel
  rw [heager]
  exact bne_iff_ne.mp (mem_filter.mp hmem).2

end Probes

/-! ## What a revalidation binds -/

namespace FlutterVmState
variable {registry : ProfileRegistry} {state : FlutterVmState registry}
  {capability : VmCapability} {probe : registry.Row → CandidateProbe}

/-- A rebinding leaves the capabilities that it does not get to. -/
theorem rebind_other {capabilities : List VmCapability}
    {bindings : CapabilityBindingSet registry.Row} (hmem : capability ∉ capabilities) :
    (state.rebind probe capabilities bindings).1.findBinding capability =
      bindings.findBinding capability := by
  induction capabilities generalizing bindings with
  | nil => rfl
  | cons first capabilities ih =>
    rw [mem_cons, not_or] at hmem
    rw [rebind]
    split
    · exact ih hmem.2
    · split
      · rfl
      next bound hbound => exact (ih hmem.2).trans ((bindSelection_spec hbound).2.2 _ hmem.1)

/-- A rebinding that gets to the end binds what each capability selects. -/
theorem rebind_bound {capabilities : List VmCapability}
    {bindings : CapabilityBindingSet registry.Row}
    (h : (state.rebind probe capabilities bindings).2 = true) (hmem : capability ∈ capabilities)
    (hrebuilds : state.rebuilds capability = true) :
    BoundTo capability (state.selectProbed probe capability)
      (state.rebind probe capabilities bindings).1 := by
  induction capabilities generalizing bindings with
  | nil => exact absurd hmem not_mem_nil
  | cons first capabilities ih =>
    rw [rebind] at h ⊢
    by_cases hlater : capability ∈ capabilities
    · split
      next hskipped =>
        rw [if_pos hskipped] at h
        exact ih h hlater
      next hkept =>
        rw [if_neg hkept] at h
        cases hbound : bindings.bindSelection first (state.selectProbed probe first) with
        | none =>
          rw [hbound] at h
          cases h
        | some bound =>
          rw [hbound] at h
          exact ih h hlater
    · obtain rfl := (mem_cons.mp hmem).resolve_right hlater
      rw [hrebuilds, if_neg Bool.true_eq_false_eq_False] at h ⊢
      cases hbound : bindings.bindSelection capability (state.selectProbed probe capability) with
      | none =>
        rw [hbound] at h
        cases h
      | some bound =>
        rw [hbound] at h
        exact (boundTo_bind hbound).congr (rebind_other hlater)

/-- Eager proofs that get to the end bind what each capability selects among the rows. -/
theorem establishEager_bound {rows : List Bool} {bits : List VmCapability}
    (h : (establishEager (some rows) bits state).2 = true) (hmem : capability ∈ bits)
    (hbits : ∀ bit ∈ bits, SingleBit bit) :
    BoundTo capability (selectCapabilityAbiSet registry.rowAbiKey state.abiCandidates capability
      rows) (establishEager (some rows) bits state).1.capabilityBindings := by
  induction bits generalizing state with
  | nil => exact absurd hmem not_mem_nil
  | cons bit bits ih =>
    have hsingles := fun other hother => hbits other (mem_cons_of_mem bit hother)
    rw [establishEager] at h ⊢
    split at h
    · cases h
    next hpassed =>
      rw [if_neg hpassed]
      have hpassed := Bool.eq_true_of_not_eq_false hpassed
      obtain ⟨bound, hbound⟩ := bindSelection_isSome state.capabilityBindings
        (hbits bit mem_cons_self).2 hpassed
      obtain ⟨-, ⟨binding, -, hrepresentative, -⟩, -⟩ := bindSelection_spec hbound
      rw [hrepresentative, hbound] at h ⊢
      by_cases hlater : capability ∈ bits
      · exact ih h hlater hsingles
      · obtain rfl := (mem_cons.mp hmem).resolve_right hlater
        exact (boundTo_bind hbound).congr
          (establishEager_keeps h (hbits capability mem_cons_self) hlater).binding

/-- The eager proofs leave the candidates. -/
theorem establishEager_candidates {compatible : Option (List Bool)} {bits : List VmCapability} :
    (establishEager compatible bits state).1.abiCandidates = state.abiCandidates := by
  induction bits generalizing state with
  | nil => rfl
  | cons bit bits ih =>
    cases compatible with
    | none =>
      rw [establishEager]
      split
      · rfl
      · exact ih
    | some rows =>
      rw [establishEager]
      split
      · split
        · rfl
        · rfl
      · split
        · exact ih
        · rfl

/-- On what is bound already, they leave the bindings too. -/
theorem establishEager_bindings {bits : List VmCapability} :
    (establishEager none bits state).1.capabilityBindings = state.capabilityBindings := by
  induction bits generalizing state with
  | nil => rfl
  | cons bit bits ih =>
    rw [establishEager]
    split
    · rfl
    · exact ih

end FlutterVmState

/-! ## The rows of an adapter -/

section Rows
variable {registry : ProfileRegistry} {environment : AdapterEnvironment registry}
  {rows : CandidateRows registry} {selected : registry.Row} {artifacts : ArtifactSet}
  {capability : VmCapability}

namespace AdapterEnvironment

/-- The rows that pass. -/
def Passes (environment : AdapterEnvironment registry) (row : registry.Row) : Prop :=
  row ∈ environment.candidates ∧ (environment.resolverInput.probe row).passed = true

/-- The rows that are kept around the selected one. -/
def kept (environment : AdapterEnvironment registry) (rows : CandidateRows registry)
    (selected : registry.Row) : List registry.Row :=
  environment.resolverInput.keptRows rows selected

/-- The selected row passes with a core ABI, and every row that does is kept. -/
structure Selected (environment : AdapterEnvironment registry) (rows : CandidateRows registry)
    (selected : registry.Row) : Prop where
  passes : environment.Passes selected
  named : rows.coreId selected ≠ ""
  sole : ∀ row, environment.Passes row → rows.coreId row ≠ "" →
    rows.coreId row = rows.coreId selected

/-- All rows that pass with a core ABI have the same RuntimeRoots key. -/
def RootsAgree (environment : AdapterEnvironment registry) (rows : CandidateRows registry) : Prop :=
  ∀ row other, environment.Passes row → environment.Passes other → rows.coreId row ≠ "" →
    rows.coreId other ≠ "" → registry.rowAbiKey row kCapabilityRuntimeRoots =
      registry.rowAbiKey other kCapabilityRuntimeRoots

theorem mem_kept (h : environment.Selected rows selected) {row : registry.Row} :
    row ∈ environment.kept rows selected ↔ environment.Passes row ∧ rows.coreId row ≠ "" := by
  unfold kept ResolverInput.keptRows
  rw [mem_filter, Bool.and_eq_true, beq_iff_eq]
  constructor
  · rintro ⟨hmem, hpassed, hcore⟩
    exact ⟨⟨hmem, hpassed⟩, hcore ▸ h.named⟩
  · rintro ⟨hpasses, hnamed⟩
    exact ⟨hpasses.1, hpasses.2, h.sole row hpasses hnamed⟩

end AdapterEnvironment

open AdapterEnvironment

/-- The rows of a selection among which every one passes. -/
theorem select_all (rows : CandidateRows registry) {profiles : List registry.Row}
    (hselected : selected ∈ profiles)
    (hkeyed : ∀ row ∈ profiles, registry.rowAbiKey row capability ≠ "") :
    ((selectCapabilityAbiSet registry.rowAbiKey ⟨profiles, some selected⟩ capability
        (profiles.map fun _ => true)).passed = true ↔
      ∀ row ∈ profiles, ∀ other ∈ profiles,
        registry.rowAbiKey row capability = registry.rowAbiKey other capability) ∧
    ((selectCapabilityAbiSet registry.rowAbiKey ⟨profiles, some selected⟩ capability
        (profiles.map fun _ => true)).passed = true →
      (selectCapabilityAbiSet registry.rowAbiKey ⟨profiles, some selected⟩ capability
        (profiles.map fun _ => true)).representative = some selected) := by
  have hsame : selectAmong rows.keys (profiles.map fun row => (row, true)) capability
      (some selected) = selectCapabilityAbiSet registry.rowAbiKey ⟨profiles, some selected⟩
        capability (profiles.map fun _ => true) := by
    unfold selectAmong
    simp only [map_map, Function.comp_def, map_id', CandidateRows.keys]
  have hpassing : ((profiles.map fun row => (row, true)).filter fun row => row.2).map Prod.fst =
      profiles := by
    simp [filter_map, Function.comp_def]
  have hselects : Selects (rows.keys.capabilityKey · capability)
      (((profiles.map fun row => (row, true)).filter fun row => row.2).map Prod.fst)
      (fun row => some selected = some row)
      (selectAmong rows.keys (profiles.map fun row => (row, true)) capability
        (some selected)).passed _ _ := selectAmong_selects
  rw [hpassing, hsame] at hselects
  constructor
  · rw [hselects.passes_iff]
    constructor
    · rintro ⟨abi, -, hunique⟩ row hrow other hother
      exact (hunique _ ⟨row, hrow, hkeyed row hrow, rfl⟩).trans
        (hunique _ ⟨other, hother, hkeyed other hother, rfl⟩).symm
    · intro hagree
      refine ⟨_, ⟨selected, hselected, hkeyed selected hselected, rfl⟩, ?_⟩
      rintro abi ⟨row, hrow, -, rfl⟩
      exact hagree row hrow selected hselected
  · intro hpassed
    obtain ⟨row, -, hrepresentative, -, -, hprefers⟩ := hselects.stands hpassed
    exact hrepresentative.trans (hprefers ⟨selected, hselected, hkeyed selected hselected, rfl⟩).symm

/-! ## The core binding of an adapter, proved again -/

/-- What the resolver makes the mask of. -/
def AdapterEnvironment.available (environment : AdapterEnvironment registry)
    (rows : CandidateRows registry) (selected : registry.Row) (artifacts : ArtifactSet)
    (capability : VmCapability) : List Bool :=
  environment.resolverInput.compatible rows (environment.kept rows selected) artifacts capability

/-- An adapter around the kept rows, with the mask of its creation; `row` stands for them. -/
structure KeepsRows (environment : AdapterEnvironment registry) (rows : CandidateRows registry)
    (selected row : registry.Row) (state : FlutterVmState registry) : Prop where
  candidates : state.abiCandidates = ⟨environment.kept rows selected, some row⟩
  stands : row ∈ environment.kept rows selected
  capabilities : state.capabilities =
    ResolverInput.boundMask ⟨environment.kept rows selected, some selected⟩
        (environment.available rows selected state.artifacts) |||
      offer kCapabilityArtifactLifecycle
        (state.artifacts.app.path != "" && !state.artifacts.engines.isEmpty)

variable {row : registry.Row} {state : FlutterVmState registry}

/-- A structural capability is in the mask when it selected one ABI at creation. -/
theorem KeepsRows.meets_iff (h : KeepsRows environment rows selected row state)
    (hstructural : Structural capability) :
    state.capabilities &&& capability ≠ 0 ↔
      (resolverSelection ⟨environment.kept rows selected, some row⟩
        (environment.available rows selected state.artifacts) capability).passed = true := by
  have hlifecycle : SingleBit kCapabilityArtifactLifecycle := ⟨by decide, by decide⟩
  have hapart : ∀ offered : Bool,
      offer kCapabilityArtifactLifecycle offered &&& capability = 0 := by
    intro offered
    unfold offer
    split
    · exact hlifecycle.disjoint (registry_single capability hstructural.1) hstructural.2.1
    · exact BitVec.zero_and
  have hpreferred := (select_preferred registry.rowAbiKey
    ⟨environment.kept rows selected, some selected⟩ (some row) capability
    (environment.available rows selected state.artifacts capability)).1
  rw [h.capabilities, or_and_of_disjoint (hapart _), boundMask_iff hstructural]
  exact (Bool.eq_iff_iff.mp hpreferred).symm

/-- The eager capabilities are structural, and every kept row offers them. -/
theorem eager_structural (hmem : capability ∈ maskBits kEagerRuntimeProofMask) :
    Structural capability := by
  have hbits : maskBits kEagerRuntimeProofMask =
      [kCapabilityRuntimeRoots, kCapabilityOwnerIdentity, kCapabilityCanonicalNull,
        kCapabilityDartCore, kCapabilitySafepointStubs] := by decide +kernel
  rw [hbits] at hmem
  simp only [mem_cons, not_mem_nil, or_false] at hmem
  rcases hmem with rfl | rfl | rfl | rfl | rfl
  · exact ⟨by decide, by decide, by decide⟩
  · exact ⟨by decide, by decide, by decide⟩
  · exact ⟨by decide, by decide, by decide⟩
  · exact ⟨by decide, by decide, by decide⟩
  · exact ⟨by decide, by decide, by decide⟩

theorem passing_kept (hselected : environment.Selected rows selected) :
    ((environment.kept rows selected).map fun row =>
      (environment.candidateProbe rows artifacts row).passed) =
        (environment.kept rows selected).map fun _ => true :=
  map_congr_left fun _ hrow => ((mem_kept hselected).mp hrow).1.2

theorem available_eager (hselected : environment.Selected rows selected)
    (hmem : capability ∈ maskBits kEagerRuntimeProofMask) :
    environment.available rows selected artifacts capability =
      (environment.kept rows selected).map fun _ => true := by
  refine map_congr_left fun row hrow => ?_
  have hpassed := ((mem_kept hselected).mp hrow).1.2
  exact bne_iff_ne.mpr (candidateProbe_eager hpassed hmem)

/-- The rows have the keys of a structural capability. -/
theorem structural_keyed (rows : CandidateRows registry) (hstructural : Structural capability)
    (row : registry.Row) : registry.rowAbiKey row capability ≠ "" :=
  rows.keyed row capability hstructural.1 hstructural.2.1

theorem roots_structural : Structural kCapabilityRuntimeRoots :=
  ⟨by decide, by decide, by decide⟩

variable (h : KeepsRows environment rows selected row state)
include h

theorem KeepsRows.selectProbed_eq :
    state.selectProbed (environment.candidateProbe rows state.artifacts) capability =
      resolverSelection ⟨environment.kept rows selected, some row⟩
        (environment.available rows selected state.artifacts) capability := by
  unfold selectProbed
  rw [h.candidates]
  rfl

/-- The roots select the row that stands for the kept ones, when these agree on them. -/
theorem KeepsRows.roots (hselected : environment.Selected rows selected) :
    ((state.selectRoots (environment.candidateProbe rows state.artifacts)).passed = true ↔
        environment.RootsAgree rows) ∧
      ((state.selectRoots (environment.candidateProbe rows state.artifacts)).passed = true →
        (state.selectRoots (environment.candidateProbe rows state.artifacts)).representative =
          some row) := by
  unfold selectRoots
  rw [h.candidates, passing_kept hselected]
  obtain ⟨hpasses, hstands⟩ := select_all rows h.stands fun row _ =>
    structural_keyed rows roots_structural row
  refine ⟨hpasses.trans ⟨fun hagree row other hrow hother hnamed hnamed' => ?_,
    fun hagree row hrow other hother => ?_⟩, hstands⟩
  · exact hagree row ((mem_kept hselected).mpr ⟨hrow, hnamed⟩) other
      ((mem_kept hselected).mpr ⟨hother, hnamed'⟩)
  · obtain ⟨hpasses, hnamed⟩ := (mem_kept hselected).mp hrow
    obtain ⟨hpasses', hnamed'⟩ := (mem_kept hselected).mp hother
    exact hagree row other hpasses hpasses' hnamed hnamed'

/-- An eager capability of the mask selects one ABI among the kept rows. -/
theorem KeepsRows.eager
    (hselected : environment.Selected rows selected) (heager : capability ∈ state.eagerBits) :
    selectCapabilityAbiSet registry.rowAbiKey state.abiCandidates capability
        (state.abiCandidates.profiles.map fun row =>
          (environment.candidateProbe rows state.artifacts row).passed) =
      resolverSelection ⟨environment.kept rows selected, some row⟩
        (environment.available rows selected state.artifacts) capability := by
  have hsingle : SingleBit capability := mem_maskBits_single heager
  have hmem : capability ∈ maskBits kEagerRuntimeProofMask := by
    rw [hsingle.mem_maskBits]
    exact mem_maskBits_of_and heager
  rw [h.candidates, passing_kept hselected, resolverSelection, available_eager hselected hmem]

/-- In the process of its creation, the core binding is proved again exactly when the rows that pass
agree on the roots and the row that stands for them has both stubs. -/
theorem KeepsRows.reprovable_iff (hselected : environment.Selected rows selected) :
    state.Reprovable (environment.candidateProbe rows state.artifacts) ↔
      environment.RootsAgree rows ∧ (environment.resolverInput.probe row).enterEntry ≠ nullptr ∧
        (environment.resolverInput.probe row).exitEntry ≠ nullptr := by
  obtain ⟨hpasses, hstands⟩ := h.roots hselected
  have hpassed : (environment.candidateProbe rows state.artifacts row).passed = true :=
    ((mem_kept hselected).mp h.stands).1.2
  constructor
  · intro hreprovable
    obtain ⟨-, henter, hexit⟩ :=
      hreprovable.entries row (hstands hreprovable.roots)
    exact ⟨hpasses.mp hreprovable.roots, henter, hexit⟩
  · rintro ⟨hagree, henter, hexit⟩
    have hroots := hpasses.mpr hagree
    refine ⟨hroots, fun other hother => ?_, fun capability hmem hrebuilds => ?_,
      fun capability heager => ?_⟩
    · obtain rfl := Option.some.inj ((hstands hroots).symm.trans hother)
      exact ⟨hpassed, henter, hexit⟩
    · simp only [rebuilds, Bool.and_eq_true, bne_iff_ne] at hrebuilds
      rw [h.selectProbed_eq]
      exact (h.meets_iff ⟨hmem, hrebuilds.1.2, hrebuilds.2⟩).mp hrebuilds.1.1
    · have hmeets : kEagerRuntimeProofMask &&& state.capabilities &&& capability ≠ 0 :=
        (mem_maskBits_single heager).mem_maskBits.mp heager
      have hmask : capability ∈ maskBits kEagerRuntimeProofMask := by
        rw [(mem_maskBits_single heager).mem_maskBits]
        exact mem_maskBits_of_and heager
      rw [BitVec.and_comm kEagerRuntimeProofMask] at hmeets
      rw [h.eager hselected heager]
      refine (h.meets_iff (eager_structural hmask)).mp fun hzero => hmeets ?_
      rw [BitVec.and_assoc, BitVec.and_comm kEagerRuntimeProofMask, ← BitVec.and_assoc, hzero]
      exact BitVec.zero_and

/-- What a core binding that is proved again binds: each structural capability of the mask, to what
the resolver selects around the row that stands. -/
theorem KeepsRows.reproved (hselected : environment.Selected rows selected)
    (hreprovable : state.Reprovable (environment.candidateProbe rows state.artifacts))
    (hstructural : Structural capability) (hmeets : state.capabilities &&& capability ≠ 0) :
    BoundTo capability (resolverSelection ⟨environment.kept rows selected, some row⟩
        (environment.available rows selected state.artifacts) capability) (state.reproveCoreBinding
        (environment.candidateProbe rows state.artifacts)).1.capabilityBindings := by
  obtain ⟨-, hstands⟩ := h.roots hselected
  have hstands := hstands hreprovable.roots
  have hproved := reproveCoreBinding_iff.mpr hreprovable
  rw [reproveCoreBinding_rooted hreprovable.roots hstands (hreprovable.entries row hstands)]
    at hproved ⊢
  -- The row that stands is the one the roots select, so they leave the candidates as they are.
  have hrooted : (state.rooted (environment.candidateProbe rows state.artifacts)
      row).abiCandidates = state.abiCandidates := by
    rw [h.candidates]
    exact congrArg (fun candidates : AbiCandidateSet registry.Row =>
      ({ candidates with representative := some row } : AbiCandidateSet registry.Row)) h.candidates
  dsimp only at hproved ⊢
  split at hproved
  · cases hproved
  next hrebound =>
    rw [if_neg hrebound]
    have hrebuilds : state.rebuilds capability = true := by
      simp only [rebuilds, Bool.and_eq_true, bne_iff_ne]
      exact ⟨⟨hmeets, hstructural.2.1⟩, hstructural.2.2⟩
    by_cases heager : capability ∈ state.eagerBits
    · have hbound := establishEager_bound hproved heager fun bit hbit => mem_maskBits_single hbit
      rw [← h.eager hselected heager, ← hrooted]
      exact hbound
    · refine BoundTo.congr ?_ (establishEager_keeps hproved
        (registry_single capability hstructural.1) heager).binding
      have hrooted' : (state.rooted (environment.candidateProbe rows state.artifacts)
          row).rebuilds capability = true := hrebuilds
      have hbound := rebind_bound (Bool.eq_true_of_not_eq_false hrebound) hstructural.1 hrooted'
      rw [← h.selectProbed_eq]
      unfold selectProbed at hbound ⊢
      rw [hrooted] at hbound
      exact hbound

end Rows

end DartPlant
