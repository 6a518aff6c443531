import DartPlant.Runtime.RuntimeImage
import DartPlant.Vm.ObjectBridge

/-! # Selecting the ABI of a capability

Several source rows of the profile registry may describe the same VM.  A capability is bound when
all rows that pass its proof agree on the fields the capability owns: `selectCapabilityAbiSet` asks
for exactly one key among them, and keeps every row with that key.

Rows are the elements of any type here, with `abiKey` for `BuildCapabilityAbiKey`; a pointer to a
row is the row.  A binding carries its representative among its selected rows.
-/

namespace DartPlant

/-! ## Capabilities -/

def kCapabilityRuntimeRoots : VmCapability := 1 <<< 0
def kCapabilityOwnerIdentity : VmCapability := 1 <<< 1
def kCapabilityCanonicalNull : VmCapability := 1 <<< 2
def kCapabilityRegisterSemantics : VmCapability := 1 <<< 3
def kCapabilityDartCore : VmCapability := 1 <<< 4
def kCapabilitySafepointStubs : VmCapability := 1 <<< 5
def kCapabilityGeneratedTransitionLayout : VmCapability := 1 <<< 6
def kCapabilityExceptionLayout : VmCapability := 1 <<< 7
def kCapabilityTypeArgumentsLayout : VmCapability := 1 <<< 8
def kCapabilityArtifactLifecycle : VmCapability := 1 <<< 9
def kCapabilityArgumentsDescriptorLayout : VmCapability := 1 <<< 10
def kCapabilityInvocationCallAbi : VmCapability := 1 <<< 11
def kCapabilityFunctionCodeLayout : VmCapability := 1 <<< 12
def kCapabilityAotEntryLayout : VmCapability := 1 <<< 13
def kCapabilityFunctionTypeLayout : VmCapability := 1 <<< 14
def kCapabilityClosureCallLayout : VmCapability := 1 <<< 15
def kCapabilityExceptionBridgeLayout : VmCapability := 1 <<< 16
def kCapabilityDeferredLoadingUnitLayout : VmCapability := 1 <<< 17
def kCapabilityLiveFunctionIndexLayout : VmCapability := 1 <<< 18

/-- The capabilities of `CapabilityRegistry()`, in its order. -/
def capabilityRegistry : List VmCapability :=
  [kCapabilityRuntimeRoots, kCapabilityOwnerIdentity, kCapabilityCanonicalNull,
    kCapabilityRegisterSemantics, kCapabilityDartCore, kCapabilitySafepointStubs,
    kCapabilityGeneratedTransitionLayout, kCapabilityExceptionLayout,
    kCapabilityTypeArgumentsLayout, kCapabilityArtifactLifecycle,
    kCapabilityArgumentsDescriptorLayout, kCapabilityInvocationCallAbi,
    kCapabilityFunctionCodeLayout, kCapabilityAotEntryLayout, kCapabilityFunctionTypeLayout,
    kCapabilityClosureCallLayout, kCapabilityExceptionBridgeLayout,
    kCapabilityDeferredLoadingUnitLayout, kCapabilityLiveFunctionIndexLayout]

/-- `VerifiedAfterCreateCapabilityMask()`. -/
def verifiedAfterCreateCapabilityMask : BitVec 64 :=
  kCapabilityRuntimeRoots ||| kCapabilityOwnerIdentity ||| kCapabilityCanonicalNull |||
    kCapabilityDartCore ||| kCapabilitySafepointStubs ||| kCapabilityArtifactLifecycle

abbrev AbiDomainMask := BitVec 32

/-- `CapabilityDomains`: core 1, call 2, object 4, transition 8, exception 16. -/
def capabilityDomains (capability : VmCapability) : AbiDomainMask :=
  if capability = kCapabilityRuntimeRoots ∨ capability = kCapabilityCanonicalNull ∨
      capability = kCapabilityTypeArgumentsLayout ∨ capability = kCapabilityFunctionTypeLayout then
    1 ||| 4
  else if capability = kCapabilityOwnerIdentity ∨ capability = kCapabilityRegisterSemantics ∨
      capability = kCapabilityDartCore then 1
  else if capability = kCapabilitySafepointStubs then 1 ||| 4 ||| 8
  else if capability = kCapabilityArgumentsDescriptorLayout then 2 ||| 4
  else if capability = kCapabilityInvocationCallAbi ∨ capability = kCapabilityFunctionCodeLayout ∨
      capability = kCapabilityAotEntryLayout ∨ capability = kCapabilityClosureCallLayout ∨
      capability = kCapabilityDeferredLoadingUnitLayout ∨
      capability = kCapabilityLiveFunctionIndexLayout then 1 ||| 2 ||| 4
  else if capability = kCapabilityGeneratedTransitionLayout then 1 ||| 8
  else if capability = kCapabilityExceptionLayout then 1 ||| 4 ||| 16
  else if capability = kCapabilityExceptionBridgeLayout then 1 ||| 16
  else 0

/-- The single capabilities of a mask, as `bit <<= 1` runs through them. -/
def maskBits (mask : BitVec 64) : List VmCapability :=
  ((List.range 64).map fun index => (1 : BitVec 64) <<< index).filter fun bit => mask &&& bit != 0

/-- `ProfileAbiSelectableCapabilityMask`. -/
def profileAbiSelectableCapabilityMask (capabilities : BitVec 64) : BitVec 64 :=
  ((maskBits capabilities).filter fun bit => capabilityDomains bit != 0).foldl
    (fun result bit => result ||| bit) kCapabilityNone

/-! ## Selections -/

structure AbiCandidateSet (Row : Type) where
  profiles : List Row
  representative : Option Row

structure DomainSetSelection (Row : Type) where
  representative : Option Row := none
  abiDomainKey : String := ""
  compatibleRows : Nat := 0
  distinctDomainSets : Nat := 0
  selectedRows : List Row := []
  selected : ∀ row, representative = some row → row ∈ selectedRows

section Select
variable {Row : Type} [DecidableEq Row]

def DomainSetSelection.passed (selection : DomainSetSelection Row) : Bool :=
  selection.representative.isSome && selection.distinctDomainSets == 1

def DomainSetSelection.ambiguous (selection : DomainSetSelection Row) : Bool :=
  decide (selection.distinctDomainSets > 1)

/-- The first row, unless the preferred one comes later. -/
def pickRepresentative (preferred : Option Row) (rows : List Row) : Option Row :=
  rows.foldl (fun chosen row => if chosen = none ∨ some row = preferred then some row else chosen)
    none

theorem pickRepresentative_mem {preferred : Option Row} {rows : List Row} {row : Row}
    (h : pickRepresentative preferred rows = some row) : row ∈ rows := by
  unfold pickRepresentative at h
  induction rows using List.reverseRecOn with
  | nil => cases h
  | append_singleton rows last ih =>
    rw [List.foldl_append, List.foldl_cons, List.foldl_nil] at h
    split at h
    · obtain rfl := Option.some.inj h
      exact List.mem_append_right _ List.mem_cons_self
    · exact List.mem_append_left _ (ih h)

theorem pickRepresentative_isSome (preferred : Option Row) (rows : List Row) :
    (pickRepresentative preferred rows).isSome = !rows.isEmpty := by
  unfold pickRepresentative
  induction rows using List.reverseRecOn with
  | nil => rfl
  | append_singleton rows last ih =>
    rw [List.foldl_append, List.foldl_cons, List.foldl_nil]
    have hne : (rows ++ [last]).isEmpty = false := by
      rw [List.isEmpty_eq_false_iff]
      exact List.append_ne_nil_of_right_ne_nil rows (List.cons_ne_nil _ _)
    rw [hne]
    split
    · rfl
    next hkept => exact Option.isSome_iff_ne_none.mpr (not_or.mp hkept).1

/-- `SelectCapabilityAbiSet`; `compatible` says for each candidate whether it passed. -/
def selectCapabilityAbiSet (abiKey : Row → VmCapability → String)
    (candidates : AbiCandidateSet Row) (capability : VmCapability) (compatible : List Bool) :
    DomainSetSelection Row :=
  if capability = kCapabilityNone ∨ compatible.length ≠ candidates.profiles.length then
    { selected := fun _ h => by cases h }
  else
    let passing := ((candidates.profiles.zip compatible).filter fun row => row.2).map Prod.fst
    let rows := passing.filter fun row => abiKey row capability != ""
    match (rows.map fun row => abiKey row capability).dedup with
    | [key] =>
      let selectedRows := rows.filter fun row => abiKey row capability == key
      { representative := pickRepresentative candidates.representative selectedRows
        abiDomainKey := key
        compatibleRows := rows.length
        distinctDomainSets := 1
        selectedRows
        selected := fun _ h => pickRepresentative_mem h }
    | keys =>
      { compatibleRows := rows.length
        distinctDomainSets := keys.length
        selected := fun _ h => by cases h }

/-- The preferred row decides which row stands for the selection, and nothing else. -/
theorem select_preferred (abiKey : Row → VmCapability → String) (candidates : AbiCandidateSet Row)
    (preferred : Option Row) (capability : VmCapability) (compatible : List Bool) :
    let chosen := selectCapabilityAbiSet abiKey { candidates with representative := preferred }
      capability compatible
    let selection := selectCapabilityAbiSet abiKey candidates capability compatible
    chosen.passed = selection.passed ∧ chosen.selectedRows = selection.selectedRows := by
  unfold selectCapabilityAbiSet
  dsimp only
  split
  · exact ⟨rfl, rfl⟩
  · split
    next key hkeys =>
      simp only [DomainSetSelection.passed, pickRepresentative_isSome, and_self]
    · exact ⟨rfl, rfl⟩

end Select

/-! ## Bindings -/

/-- A bound capability: one row that stands for it, and every row that agrees. -/
structure CapabilityBinding (Row : Type) where
  capability : VmCapability
  representative : Row
  abiDomainKey : String
  selectedRows : List Row
  selected : representative ∈ selectedRows

abbrev CapabilityBindingSet (Row : Type) := List (CapabilityBinding Row)

namespace CapabilityBindingSet
variable {Row : Type}

/-- `CapabilityBindingSet::Find`. -/
def findBinding (bindings : CapabilityBindingSet Row) (capability : VmCapability) :
    Option (CapabilityBinding Row) :=
  bindings.find? fun binding => binding.capability == capability

/-- Replace the binding of the same capability, or add one. -/
def put (replacement : CapabilityBinding Row) : CapabilityBindingSet Row → CapabilityBindingSet Row
  | [] => [replacement]
  | binding :: bindings =>
    if binding.capability = replacement.capability then replacement :: bindings
    else binding :: put replacement bindings

/-- `CapabilityBindingSet::Bind`. -/
def bindSelection (bindings : CapabilityBindingSet Row) (capability : VmCapability)
    (selection : DomainSetSelection Row) : Option (CapabilityBindingSet Row) :=
  if capability = kCapabilityNone ∨ selection.passed = false then none
  else
    match h : selection.representative with
    | none => none
    | some representative => some <| put
        { capability, representative, abiDomainKey := selection.abiDomainKey
          selectedRows := selection.selectedRows
          selected := selection.selected representative h } bindings

/-- `CapabilityBindingSet::Clear`. -/
def clear (bindings : CapabilityBindingSet Row) (capability : VmCapability) :
    CapabilityBindingSet Row :=
  bindings.filter fun binding => binding.capability != capability

variable {bindings bound : CapabilityBindingSet Row} {capability other : VmCapability}
  {replacement : CapabilityBinding Row} {selection : DomainSetSelection Row}

@[simp] theorem findBinding_cons_self {binding : CapabilityBinding Row} :
    findBinding (binding :: bindings) binding.capability = some binding :=
  List.find?_cons_of_pos BEq.rfl

theorem findBinding_cons_ne {binding : CapabilityBinding Row} (hne : binding.capability ≠ other) :
    findBinding (binding :: bindings) other = findBinding bindings other := by
  have hother : (binding.capability == other) = false := beq_eq_false_iff_ne.mpr hne
  simp only [findBinding, List.find?_cons, hother]

theorem findBinding_put_self :
    findBinding (put replacement bindings) replacement.capability = some replacement := by
  induction bindings with
  | nil => exact findBinding_cons_self
  | cons binding bindings ih =>
    rw [put]
    split
    · exact findBinding_cons_self
    next hne => exact (findBinding_cons_ne hne).trans ih

theorem findBinding_put_ne (hne : replacement.capability ≠ other) :
    findBinding (put replacement bindings) other = findBinding bindings other := by
  induction bindings with
  | nil => exact findBinding_cons_ne hne
  | cons binding bindings ih =>
    rw [put]
    split
    next heq =>
      have hother : binding.capability ≠ other := fun h => hne (heq.symm.trans h)
      exact (findBinding_cons_ne hne).trans (findBinding_cons_ne hother).symm
    · by_cases hother : binding.capability = other
      · subst hother
        exact findBinding_cons_self.trans findBinding_cons_self.symm
      · exact (findBinding_cons_ne hother).trans (ih.trans (findBinding_cons_ne hother).symm)

theorem findBinding_clear_self : findBinding (bindings.clear capability) capability = none := by
  rw [findBinding, List.find?_eq_none]
  intro binding hbinding hsame
  have hkept := (List.mem_filter.mp hbinding).2
  rw [bne_iff_ne] at hkept
  exact hkept (beq_iff_eq.mp hsame)

theorem findBinding_clear_ne (hne : capability ≠ other) :
    findBinding (bindings.clear capability) other = findBinding bindings other := by
  rw [findBinding, findBinding, clear, List.find?_filter]
  congr 1
  funext binding
  by_cases hother : binding.capability = other
  · simp only [hother, BEq.rfl, bne_iff_ne.mpr hne.symm, and_self, decide_true]
  · simp only [beq_eq_false_iff_ne.mpr hother, Bool.false_eq_true, and_false, decide_false]

/-- A selection is bound when it passed. -/
theorem bindSelection_isSome (bindings : CapabilityBindingSet Row)
    (hcapability : capability ≠ kCapabilityNone) (hpassed : selection.passed = true) :
    ∃ bound, bindings.bindSelection capability selection = some bound := by
  unfold bindSelection
  rw [if_neg (not_or.mpr ⟨hcapability, Bool.not_eq_false _ ▸ hpassed⟩)]
  split
  next hnone =>
    simp only [DomainSetSelection.passed, hnone, Option.isSome_none, Bool.false_and,
      Bool.false_eq_true] at hpassed
  next representative hsome => exact ⟨_, rfl⟩

/-- What a bound selection says. -/
theorem bindSelection_spec (hbound : bindings.bindSelection capability selection = some bound) :
    selection.passed = true ∧
      (∃ binding, bound.findBinding capability = some binding ∧
        selection.representative = some binding.representative ∧
        binding.selectedRows = selection.selectedRows) ∧
      ∀ other, other ≠ capability → bound.findBinding other = bindings.findBinding other := by
  unfold bindSelection at hbound
  split at hbound
  · cases hbound
  next hok =>
    refine ⟨Bool.eq_true_of_not_eq_false (not_or.mp hok).2, ?_⟩
    split at hbound
    · cases hbound
    next representative hsome =>
      obtain rfl := Option.some.inj hbound
      refine ⟨⟨_, findBinding_put_self, hsome, rfl⟩, fun other hne => ?_⟩
      exact findBinding_put_ne hne.symm

end CapabilityBindingSet

end DartPlant
