import DartPlant.Vm.CapabilityConsumers

/-! # No order decides a selection

All selections are fair but one: a list of domains selects fairly exactly when the core
representative comes first among the rows it selects from, or is not one of them.
-/

namespace DartPlant
open SoleKey CapabilityBindingSet

namespace AbiQuestion
variable {Row : Type} {keys : AbiKeys Row} {question other : AbiQuestion Row}

/-! ## Lists of domains -/

theorem listKey_nil (hdomains : question.domains = []) (row : Row) :
    question.listKey keys row = "" := by
  rw [listKey, hdomains]
  rfl

theorem ofList_of_domains (hdomains : question.domains ≠ []) : question.ofList keys =
    selectDomainSet (question.listKey keys) List.head? (question.rows.map Prod.fst)
      (question.rows.map Prod.snd) := by
  rw [ofList, selectDomainAbiSetOfList, if_neg hdomains]
  rfl

/-- A selection of a list of domains that passed is represented by its first row. -/
theorem ofList_head {abi : String}
    (hsole : ((keyedRows (question.listKey keys) question.rows).map
      (question.listKey keys)).dedup = [abi]) :
    (question.ofList keys).passed = true ∧ (question.ofList keys).representative =
      (keyedRows (question.listKey keys) question.rows).head? := by
  have hdomains : question.domains ≠ [] := by
    intro hnil
    exact not_sole_of_no_key (listKey_nil hnil) hsole
  have hhead : (keyedRows (question.listKey keys) question.rows).head?.isSome = true :=
    List.isSome_head?.mpr (dedup_eq_singleton.mp hsole).1
  rw [ofList_of_domains hdomains, selectDomainSet_sole _ hsole]
  simp only [DomainSelectionKeys.passed, hhead, BEq.rfl, Bool.and_self, and_self]

/-- A list of domains selects fairly when the core representative comes first, if at all. -/
theorem ofList_selects_iff : Selects (question.listKey keys) question.passing
      (fun row => question.representative = some row) (question.ofList keys).passed
      (question.ofList keys).abiDomainKey (question.ofList keys).representative ↔
    question.CoreFirst keys := by
  constructor
  · intro hselects honly core hcore hrepresentative
    obtain ⟨abi, hsole⟩ := dedup_eq_singleton_iff_existsUnique.mpr honly
    obtain ⟨hpassed, hhead⟩ := ofList_head hsole
    obtain ⟨row, -, hstands, -, -, hprefers⟩ := hselects.stands hpassed
    obtain ⟨hpassing, hkeyed⟩ := List.mem_filter.mp hcore
    have hfirst := hprefers ⟨core, hpassing, bne_iff_ne.mp hkeyed, hrepresentative⟩
    obtain rfl : core = row := Option.some.inj (hrepresentative.symm.trans hfirst)
    exact hhead.symm.trans hstands
  · intro hfirst
    by_cases hdomains : question.domains = []
    · rw [ofList, selectDomainAbiSetOfList, if_pos hdomains]
      exact selects_of_not_sole fun _ => not_sole_of_no_key (listKey_nil hdomains)
    · rw [ofList_of_domains hdomains]
      refine selectDomainSet_selects fun abi hsole => ?_
      obtain ⟨first, rest, hrows⟩ := List.exists_cons_of_ne_nil (dedup_eq_singleton.mp hsole).1
      rw [hrows]
      refine ⟨first, List.mem_cons_self, rfl, fun ⟨core, hcore, hrepresentative⟩ => ?_⟩
      have honly := dedup_eq_singleton_iff_existsUnique.mp ⟨abi, hsole⟩
      rw [← hrows] at hcore
      have hhead : (keyedRows (question.listKey keys) question.rows).head? = some core :=
        hfirst honly core hcore hrepresentative
      rw [hrows, List.head?_cons] at hhead
      exact hrepresentative.trans hhead.symm

variable (keys) in
theorem ofList_order (h : question.Reorders other) :
    (other.ofList keys).passed = (question.ofList keys).passed ∧
      (other.ofList keys).abiDomainKey = (question.ofList keys).abiDomainKey := by
  obtain ⟨-, hrows, -, hdomains, -, -, -⟩ := h
  by_cases hnil : question.domains = []
  · rw [ofList, ofList, selectDomainAbiSetOfList, selectDomainAbiSetOfList, hdomains, if_pos hnil,
      if_pos hnil]
    exact ⟨rfl, rfl⟩
  · have hkey : other.listKey keys = question.listKey keys := by
      funext row
      rw [listKey, listKey, hdomains]
    rw [ofList_of_domains hnil, ofList_of_domains (hdomains ▸ hnil), hkey]
    exact selectDomainSet_perm (fun hne => List.isSome_head?.mpr hne) hrows

/-! ## Masks of domains -/

variable [DecidableEq Row]

theorem ofMask_of_domains (hdomains : question.domainMask ≠ 0) : question.ofMask keys =
    selectDomainSet (question.maskKey keys) (pickRepresentative question.representative)
      (question.rows.map Prod.fst) (question.rows.map Prod.snd) := by
  rw [ofMask, selectDomainAbiSet, if_neg hdomains]
  rfl

omit [DecidableEq Row] in
theorem maskKey_zero (hdomains : question.domainMask = 0) (row : Row) :
    question.maskKey keys row = "" := by
  rw [maskKey, hdomains]
  rfl

theorem ofMask_selects : Selects (question.maskKey keys) question.passing
    (fun row => question.representative = some row) (question.ofMask keys).passed
    (question.ofMask keys).abiDomainKey (question.ofMask keys).representative := by
  by_cases hdomains : question.domainMask = 0
  · rw [ofMask, selectDomainAbiSet, if_pos hdomains]
    exact selects_of_not_sole fun _ => not_sole_of_no_key (maskKey_zero hdomains)
  · rw [ofMask_of_domains hdomains]
    refine selectDomainSet_selects fun abi hsole => ?_
    exact pickRepresentative_prefers _ (dedup_eq_singleton.mp hsole).1

variable (keys) in
theorem ofMask_order (h : question.Reorders other) :
    (other.ofMask keys).passed = (question.ofMask keys).passed ∧
      (other.ofMask keys).abiDomainKey = (question.ofMask keys).abiDomainKey := by
  obtain ⟨-, hrows, -, -, hmask, -, hrepresentative⟩ := h
  by_cases hzero : question.domainMask = 0
  · rw [ofMask, ofMask, selectDomainAbiSet, selectDomainAbiSet, hmask, if_pos hzero,
      if_pos hzero]
    exact ⟨rfl, rfl⟩
  · have hkey : other.maskKey keys = question.maskKey keys := by
      funext row
      rw [maskKey, maskKey, hmask]
    rw [ofMask_of_domains hzero, ofMask_of_domains (hmask ▸ hzero), hkey, hrepresentative]
    refine selectDomainSet_perm (fun hne => ?_) hrows
    rw [pickRepresentative_isSome, List.isEmpty_eq_false_iff.mpr hne]
    rfl

/-! ## Everything together -/

variable (keys) in
theorem ofCapability_order (h : question.Reorders other) :
    (other.ofCapability keys).passed = (question.ofCapability keys).passed ∧
      (other.ofCapability keys).abiDomainKey = (question.ofCapability keys).abiDomainKey ∧
      (other.ofCapability keys).selectedRows.Perm (question.ofCapability keys).selectedRows := by
  obtain ⟨-, hrows, -, -, -, hcapability, hrepresentative⟩ := h
  have hother : other.ofCapability keys =
      selectAmong keys other.rows question.capability question.representative := by
    rw [← hcapability, ← hrepresentative]
    rfl
  rw [hother]
  exact selectAmong_perm hrows

variable (keys) in
omit [DecidableEq Row] in
theorem unique_order (h : question.Reorders other) :
    (other.unique keys).selected.isSome = (question.unique keys).selected.isSome ∧
      other.uniqueKey keys = question.uniqueKey keys := by
  obtain ⟨hdiagnostics, -, hdomain, -, -, -, -⟩ := h
  have hsame : (other.unique keys).selected.map
        (fun candidate => candidate.abiId keys question.domain) =
      (question.unique keys).selected.map fun candidate => candidate.abiId keys question.domain := by
    rw [unique, unique, hdomain]
    exact selectUniquePassingCandidate_perm hdiagnostics
  constructor
  · have hsome := congrArg Option.isSome hsame
    rwa [Option.isSome_map, Option.isSome_map] at hsome
  · rw [uniqueKey, uniqueKey, hdomain, hsame]

theorem sameAnswers_of_reorders (h : question.Reorders other) :
    question.SameAnswers keys other where
  unique := (unique_order keys h).1
  uniqueKey := (unique_order keys h).2
  ofList := (ofList_order keys h).1
  ofListKey := (ofList_order keys h).2
  ofMask := (ofMask_order keys h).1
  ofMaskKey := (ofMask_order keys h).2
  ofCapability := (ofCapability_order keys h).1
  ofCapabilityKey := (ofCapability_order keys h).2.1
  selectedRows := (ofCapability_order keys h).2.2

/-- Selections and the bindings made from them are fair exactly when a core representative that a
list of domains selects from comes first. -/
theorem abi_selection_fair_iff (keys : AbiKeys Row) (question : AbiQuestion Row) :
    question.Fair keys ↔ question.CoreFirst keys := by
  constructor
  · intro h
    exact ofList_selects_iff.mp h.ofList
  · intro hfirst
    have hbound : BoundFrom question.candidates.profiles (question.bindings keys) :=
      bindings_boundFrom question.proofs
    exact {
      unique := selectUniquePassingCandidate_selects
      ofList := ofList_selects_iff.mpr hfirst
      ofMask := ofMask_selects
      ofCapability := selectAmong_selects
      selectedRows := selectAmong_rows
      reordered := fun _ => sameAnswers_of_reorders
      resolves := resolveCapabilityConsumerProfile_isSome hbound
      shared := fun _ => resolveCapabilityConsumerProfile_shared hbound
      requested := fun _ => resolveCapabilityConsumerProfile_perm hbound
      bound := fun proofs hperm hnodup =>
        resolveCapabilityConsumerProfile_congr hbound (bindings_boundFrom proofs)
          (fun _ => boundRows_perm hperm hnodup) question.requested }

/-- Two rows of one ABI, the second of which is the core representative. -/
def secondCore : AbiQuestion Bool where
  diagnostics := []
  domain := .core
  rows := [(false, true), (true, true)]
  representative := some true
  domains := [.core]
  domainMask := 0
  capability := kCapabilityNone
  proofs := []
  requested := []

def oneAbi : AbiKeys Bool where
  identity := fun _ => ⟨some "arm64", none, none, none, none⟩
  capabilityKey := fun _ _ => ""
  noCapability := fun _ => rfl

/-- The list of the core domain selects both rows and lets the first stand for them. -/
theorem second_core_unfair :
    (secondCore.ofList oneAbi).passed = true ∧
      (secondCore.ofList oneAbi).representative = some false ∧ ¬ secondCore.Fair oneAbi := by
  refine ⟨by decide, by decide, fun h => ?_⟩
  obtain ⟨row, -, hstands, -, -, hprefers⟩ := h.ofList.stands (by decide)
  have hfirst : (secondCore.ofList oneAbi).representative = some false := by decide
  obtain rfl : false = row := Option.some.inj (hfirst.symm.trans hstands)
  exact absurd (hprefers ⟨true, by decide, by decide, rfl⟩) (by decide)

end AbiQuestion

end DartPlant
