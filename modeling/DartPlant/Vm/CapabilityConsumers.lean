import DartPlant.Vm.FairSelection

/-! # Consumers of several capabilities

Every binding keeps the rows it was selected from, in the order of the candidates.  So a row shared
by several capabilities is the first candidate that all of them keep, in whatever order they are
requested, and it does not matter either in which order the capabilities were bound.
-/

namespace DartPlant
open SoleKey CapabilityBindingSet List

section Consumers
variable {Row : Type} [DecidableEq Row] {keys : AbiKeys Row} {candidates : AbiCandidateSet Row}
  {bindings : CapabilityBindingSet Row} {capability : VmCapability}

/-! ## The rows of a binding -/

/-- The rows bound to a capability, if it is bound. -/
def boundRows (bindings : CapabilityBindingSet Row) (capability : VmCapability) :
    Option (List Row) :=
  (bindings.findBinding capability).map CapabilityBinding.selectedRows

variable (keys candidates) in
/-- The rows that a proof binds to its capability, if it does. -/
def provenRows (proof : VmCapability × (Row → Bool)) : Option (List Row) :=
  let selection := selectCapabilityAbiSet keys.capabilityKey candidates proof.1
    (candidates.profiles.map proof.2)
  if proof.1 ≠ kCapabilityNone ∧ selection.passed = true then some selection.selectedRows else none

theorem selectCapabilityAbiSet_outcomes (passes : Row → Bool) :
    selectCapabilityAbiSet keys.capabilityKey candidates capability
        (candidates.profiles.map passes) =
      selectAmong keys (candidates.profiles.map fun row => (row, passes row)) capability
        candidates.representative := by
  rw [selectAmong, map_map, map_map]
  simp only [Function.comp_def, map_id']

omit [DecidableEq Row] in
theorem keyedRows_outcomes (key : Row → String) (profiles : List Row) (passes : Row → Bool) :
    keyedRows key (profiles.map fun row => (row, passes row)) =
      profiles.filter fun row => passes row && key row != "" := by
  have hpassing : ((profiles.map fun row => (row, passes row)).filter fun row => row.2).map
      Prod.fst = profiles.filter passes := by
    rw [filter_map, map_map]
    exact map_id' _
  rw [keyedRows, hpassing, filter_filter]
  simp only [Bool.and_comm]

theorem boundRows_bindProof (proof : VmCapability × (Row → Bool)) :
    boundRows (bindProof keys candidates bindings proof) capability =
      if capability = proof.1 ∧ (provenRows keys candidates proof).isSome then
        provenRows keys candidates proof
      else boundRows bindings capability := by
  unfold bindProof
  have hproven : provenRows keys candidates proof =
      if proof.1 ≠ kCapabilityNone ∧ (selectCapabilityAbiSet keys.capabilityKey candidates proof.1
          (candidates.profiles.map proof.2)).passed = true then
        some (selectCapabilityAbiSet keys.capabilityKey candidates proof.1
          (candidates.profiles.map proof.2)).selectedRows
      else none := rfl
  generalize selectCapabilityAbiSet keys.capabilityKey candidates proof.1
    (candidates.profiles.map proof.2) = selection at hproven ⊢
  cases hbound : bindings.bindSelection proof.1 selection with
  | none =>
    have hrefused : ¬ (proof.1 ≠ kCapabilityNone ∧ selection.passed = true) := by
      intro ⟨hcapability, hpassed⟩
      obtain ⟨bound, hsome⟩ := bindSelection_isSome bindings hcapability hpassed
      rw [hbound] at hsome
      cases hsome
    rw [if_neg hrefused] at hproven
    rw [hproven, if_neg (fun h => Bool.noConfusion h.2)]
    rfl
  | some bound =>
    obtain ⟨hpassed, ⟨binding, hfound, -, hrows⟩, hothers⟩ := bindSelection_spec hbound
    have hcapability : proof.1 ≠ kCapabilityNone := by
      intro hnone
      rw [bindSelection, if_pos (.inl hnone)] at hbound
      cases hbound
    rw [if_pos ⟨hcapability, hpassed⟩] at hproven
    rw [hproven, Option.getD_some]
    by_cases hsame : capability = proof.1
    · rw [if_pos ⟨hsame, rfl⟩, hsame, boundRows, hfound, Option.map_some, hrows]
    · rw [if_neg (fun h => hsame h.1), boundRows, hothers capability hsame, boundRows]

/-- The rows a proof binds are the candidates, in their order, that satisfy some condition. -/
theorem provenRows_filter {proof : VmCapability × (Row → Bool)} {rows : List Row}
    (h : provenRows keys candidates proof = some rows) :
    proof.1 ≠ kCapabilityNone ∧ ∃ keeps : Row → Bool, rows = candidates.profiles.filter keeps := by
  unfold provenRows at h
  dsimp only at h
  split at h
  next hpassed =>
    obtain ⟨hcapability, hpassed⟩ := hpassed
    obtain rfl := Option.some.inj h
    rw [selectCapabilityAbiSet_outcomes] at hpassed ⊢
    rw [selectAmong_rows hpassed, keyedRows_outcomes]
    exact ⟨hcapability, _, rfl⟩
  next => cases h

/-- Every binding keeps candidates in their order. -/
def BoundFrom (profiles : List Row) (bindings : CapabilityBindingSet Row) : Prop :=
  ∀ capability rows, boundRows bindings capability = some rows →
    capability ≠ kCapabilityNone ∧ ∃ keeps : Row → Bool, rows = profiles.filter keeps

theorem BoundFrom.bindProof (h : BoundFrom candidates.profiles bindings)
    (proof : VmCapability × (Row → Bool)) :
    BoundFrom candidates.profiles (bindProof keys candidates bindings proof) := by
  intro capability rows hrows
  rw [boundRows_bindProof] at hrows
  split at hrows
  next hproven =>
    obtain ⟨rfl, -⟩ := hproven
    exact provenRows_filter hrows
  next => exact h capability rows hrows

theorem bindings_boundFrom (proofs : List (VmCapability × (Row → Bool))) :
    BoundFrom candidates.profiles (proofs.foldl (bindProof keys candidates) []) := by
  have hstart : BoundFrom candidates.profiles ([] : CapabilityBindingSet Row) := by
    intro capability rows hrows
    cases hrows
  generalize ([] : CapabilityBindingSet Row) = bindings at hstart ⊢
  induction proofs generalizing bindings with
  | nil => exact hstart
  | cons proof proofs ih => exact ih _ (hstart.bindProof proof)

/-- Different capabilities are bound to the rows of their own proofs. -/
theorem boundRows_bindings {proofs : List (VmCapability × (Row → Bool))} {rows : List Row}
    (hnodup : (proofs.map Prod.fst).Nodup) :
    boundRows (proofs.foldl (bindProof keys candidates) []) capability = some rows ↔
      ∃ proof ∈ proofs, proof.1 = capability ∧ provenRows keys candidates proof = some rows := by
  induction proofs using List.reverseRecOn with
  | nil =>
    constructor
    · intro h
      cases h
    · intro ⟨proof, hproof, _⟩
      cases hproof
  | append_singleton proofs last ih =>
    rw [map_append, nodup_append] at hnodup
    obtain ⟨hnodup, -, hapart⟩ := hnodup
    rw [foldl_append, foldl_cons, foldl_nil, boundRows_bindProof]
    split
    next hlast =>
      obtain ⟨rfl, hproven⟩ := hlast
      constructor
      · intro h
        exact ⟨last, mem_append_right _ (mem_singleton_self _), rfl, h⟩
      · intro ⟨proof, hproof, hsame, hrows⟩
        rcases mem_append.mp hproof with hproof | hproof
        · exact absurd hsame (hapart _ (mem_map_of_mem hproof) _ mem_cons_self)
        · rwa [← mem_singleton.mp hproof]
    next hkept =>
      rw [ih hnodup]
      constructor
      · intro ⟨proof, hproof, h⟩
        exact ⟨proof, mem_append_left _ hproof, h⟩
      · intro ⟨proof, hproof, hsame, hrows⟩
        rcases mem_append.mp hproof with hproof | hproof
        · exact ⟨proof, hproof, hsame, hrows⟩
        · rw [mem_singleton.mp hproof] at hsame hrows
          exact absurd ⟨hsame.symm, by rw [hrows]; rfl⟩ hkept

theorem boundRows_perm {proofs proofs' : List (VmCapability × (Row → Bool))}
    (h : proofs'.Perm proofs) (hnodup : (proofs.map Prod.fst).Nodup) :
    boundRows (proofs'.foldl (bindProof keys candidates) []) capability =
      boundRows (proofs.foldl (bindProof keys candidates) []) capability := by
  have hnodup' : (proofs'.map Prod.fst).Nodup := (h.map _).nodup_iff.mpr hnodup
  ext rows
  rw [boundRows_bindings hnodup, boundRows_bindings hnodup']
  simp only [h.mem_iff]

/-! ## The row that is shared -/

variable (h : BoundFrom candidates.profiles bindings)
include h

omit [DecidableEq Row] in
theorem BoundFrom.findBinding
    {binding : CapabilityBinding Row} (hfound : bindings.findBinding capability = some binding) :
    binding.bound = true ∧
      ∃ keeps : Row → Bool, binding.selectedRows = candidates.profiles.filter keeps := by
  have hrows : boundRows bindings capability = some binding.selectedRows := by
    rw [boundRows, hfound, Option.map_some]
  obtain ⟨hcapability, hkeeps⟩ := h capability _ hrows
  rw [CapabilityBindingSet.findBinding] at hfound
  have hsame : binding.capability = capability := by
    have hcheck := List.find?_some hfound
    exact beq_iff_eq.mp hcheck
  exact ⟨bne_iff_ne.mpr (hsame ▸ hcapability), hkeeps⟩

/-- A row is contained when it is among the rows bound to the capability. -/
theorem BoundFrom.containsCandidate_iff {row : Row} :
    containsCandidate bindings row capability = true ↔
      ∃ rows, boundRows bindings capability = some rows ∧ row ∈ rows := by
  unfold containsCandidate boundRows
  cases hfound : bindings.findBinding capability with
  | none =>
    constructor
    · intro hfalse
      cases hfalse
    · intro ⟨rows, hnone, _⟩
      cases hnone
  | some binding =>
    simp only [(h.findBinding hfound).1, Bool.true_and, CapabilityBinding.contains,
      decide_eq_true_eq, Option.map_some, Option.some.injEq, exists_eq_left']

theorem BoundFrom.shared_iff {requested : List VmCapability} {row : Row} :
    Shared bindings requested row ↔ requested.all (containsCandidate bindings row) = true := by
  rw [all_eq_true]
  refine forall_congr' fun capability => imp_congr_right fun _ => ?_
  rw [h.containsCandidate_iff]
  simp only [boundRows, Option.map_eq_some_iff, exists_exists_and_eq_and]

/-- A consumer gets the first candidate that every capability contains. -/
theorem resolveCapabilityConsumerProfile_eq {requested : List VmCapability} (hne : requested ≠ []) :
    resolveCapabilityConsumerProfile bindings requested =
      candidates.profiles.find? fun row => requested.all (containsCandidate bindings row) := by
  obtain ⟨first, others, rfl⟩ := exists_cons_of_ne_nil hne
  rw [resolveCapabilityConsumerProfile]
  cases hfound : bindings.findBinding first with
  | none =>
    symm
    rw [List.find?_eq_none]
    intro row _ hall
    have hfirst := (all_eq_true.mp hall) first mem_cons_self
    rw [containsCandidate, hfound] at hfirst
    cases hfirst
  | some binding =>
    obtain ⟨hbound, keeps, hrows⟩ := h.findBinding hfound
    have hfirst (row : Row) (hrow : row ∈ candidates.profiles) :
        containsCandidate bindings row first = keeps row := by
      simp only [containsCandidate, hfound, hbound, Bool.true_and, CapabilityBinding.contains,
        hrows, mem_filter, hrow, true_and, Bool.decide_eq_true]
    simp only [hbound, if_true, hrows, List.find?_filter, all_cons]
    rw [← List.head?_filter, ← List.head?_filter]
    congr 1
    refine filter_congr fun row hrow => ?_
    rw [hfirst row hrow, Bool.decide_and, Bool.decide_eq_true, Bool.decide_eq_true]

theorem resolveCapabilityConsumerProfile_perm
    {requested requested' : List VmCapability} (hperm : requested'.Perm requested) :
    resolveCapabilityConsumerProfile bindings requested' =
      resolveCapabilityConsumerProfile bindings requested := by
  by_cases hne : requested = []
  · rw [hne] at hperm
    rw [hne, hperm.eq_nil]
  · have hne' : requested' ≠ [] := fun hnil => hne (hnil ▸ hperm).symm.eq_nil
    rw [resolveCapabilityConsumerProfile_eq h hne, resolveCapabilityConsumerProfile_eq h hne']
    congr 1
    funext row
    exact hperm.all_eq

theorem resolveCapabilityConsumerProfile_congr {bindings' : CapabilityBindingSet Row}
     (h' : BoundFrom candidates.profiles bindings')
    (hrows : ∀ capability, boundRows bindings' capability = boundRows bindings capability)
    (requested : List VmCapability) : resolveCapabilityConsumerProfile bindings' requested =
      resolveCapabilityConsumerProfile bindings requested := by
  by_cases hne : requested = []
  · rw [hne]
    rfl
  · have hsame (row : Row) : containsCandidate bindings' row = containsCandidate bindings row := by
      funext capability
      rw [Bool.eq_iff_iff, h.containsCandidate_iff, h'.containsCandidate_iff, hrows]
    rw [resolveCapabilityConsumerProfile_eq h hne, resolveCapabilityConsumerProfile_eq h' hne]
    simp only [hsame]

theorem resolveCapabilityConsumerProfile_shared {requested : List VmCapability} {row : Row}
    (hresolved : resolveCapabilityConsumerProfile bindings requested = some row) :
    Shared bindings requested row := by
  by_cases hne : requested = []
  · rw [hne] at hresolved
    cases hresolved
  · rw [resolveCapabilityConsumerProfile_eq h hne] at hresolved
    have hall := List.find?_some hresolved
    exact h.shared_iff.mpr hall

theorem resolveCapabilityConsumerProfile_isSome {requested : List VmCapability} :
    (resolveCapabilityConsumerProfile bindings requested).isSome = true ↔
      requested ≠ [] ∧ ∃ row, Shared bindings requested row := by
  constructor
  · intro hsome
    obtain ⟨row, hresolved⟩ := Option.isSome_iff_exists.mp hsome
    refine ⟨?_, row, resolveCapabilityConsumerProfile_shared h hresolved⟩
    intro hnil
    rw [hnil] at hresolved
    cases hresolved
  · intro ⟨hne, row, hshared⟩
    rw [resolveCapabilityConsumerProfile_eq h hne, List.find?_isSome]
    obtain ⟨first, others, rfl⟩ := exists_cons_of_ne_nil hne
    obtain ⟨binding, hfound, hrow⟩ := hshared first mem_cons_self
    obtain ⟨-, keeps, hrows⟩ := h.findBinding hfound
    rw [hrows] at hrow
    exact ⟨row, (mem_filter.mp hrow).1, h.shared_iff.mp hshared⟩

end Consumers

end DartPlant
