import DartPlant.Abi.CallingConvention

/-! # The order of evidence

A layout does not depend on the order in which providers are heard, and a conflict outlives every
further provider.  What a slot is marked with counts only where it also names a representation: a
slot marked conflicting that names none is skipped as if nothing had been said
(`marked_without_name_forgotten`), so that another provider's word for the slot stands.
-/

namespace DartPlant
open Consensus DartFunctionAbiEvidence List

/-! ## One slot -/

/-- The item proves a representation. -/
def DartAbiSlotEvidence.Proves (item : DartAbiSlotEvidence)
    (representation : DartAbiRepresentation) : Prop :=
  item.proof = .proven ∧ item.representation = representation ∧ representation ≠ .unknown

/-- What an item reports that is not marked conflicting is what it proves. -/
theorem report_eq_some_iff {item : DartAbiSlotEvidence} (h : item.proof ≠ .conflicting)
    {representation : DartAbiRepresentation} :
    item.report = some representation ↔ item.Proves representation := by
  unfold DartAbiSlotEvidence.report DartAbiSlotEvidence.Proves
  constructor
  · intro hreport
    split at hreport
    · cases hreport
    next hspeaks =>
      obtain ⟨hknown, hnamed⟩ := not_or.mp hspeaks
      obtain rfl := Option.some.inj hreport
      cases hproof : item.proof with
      | unknown => exact absurd hproof hknown
      | proven => exact ⟨rfl, rfl, hnamed⟩
      | conflicting => exact absurd hproof h
  · rintro ⟨hproven, rfl, hnamed⟩
    rw [if_neg]
    rw [hproven]
    rintro (hunknown | hunknown)
    · cases hunknown
    · exact hnamed hunknown

theorem resolveSlotItem_silent {item : DartAbiSlotEvidence}
    (h : item.proof = .unknown ∨ item.representation = .unknown) (slot : DartAbiResolvedSlot) :
    resolveSlotItem slot item = slot := by
  rw [resolveSlotItem, if_pos h]

theorem resolveSlotItem_marked {item : DartAbiSlotEvidence} (h : item.proof = .conflicting)
    (hnamed : item.representation ≠ .unknown) (slot : DartAbiResolvedSlot) :
    (resolveSlotItem slot item).proof = .conflicting := by
  have hspeaks : ¬ (item.proof = .unknown ∨ item.representation = .unknown) := by
    rintro (hunknown | hunknown)
    · rw [h] at hunknown
      cases hunknown
    · exact hnamed hunknown
  rw [resolveSlotItem, if_neg hspeaks]
  dsimp only
  rw [if_pos h]

theorem resolveSlotItem_conflicting {slot : DartAbiResolvedSlot} (h : slot.proof = .conflicting)
    (item : DartAbiSlotEvidence) : (resolveSlotItem slot item).proof = .conflicting := by
  unfold resolveSlotItem
  split
  · exact h
  dsimp only
  split
  · rfl
  rw [h, if_neg (fun h => nomatch h), if_neg (fun h => nomatch h.1)]

theorem foldl_resolveSlotItem_conflicting {slot : DartAbiResolvedSlot}
    (h : slot.proof = .conflicting) (evidence : List DartAbiSlotEvidence) :
    (evidence.foldl resolveSlotItem slot).proof = .conflicting := by
  induction evidence generalizing slot with
  | nil => exact h
  | cons item evidence ih => exact ih (resolveSlotItem_conflicting h item)

/-- Two items may be heard in either order. -/
theorem resolveSlotItem_right_comm (slot : DartAbiResolvedSlot)
    (left right : DartAbiSlotEvidence) :
    resolveSlotItem (resolveSlotItem slot left) right =
      resolveSlotItem (resolveSlotItem slot right) left := by
  by_cases hleft : left.proof = .unknown ∨ left.representation = .unknown
  · rw [resolveSlotItem_silent hleft, resolveSlotItem_silent hleft]
  by_cases hright : right.proof = .unknown ∨ right.representation = .unknown
  · rw [resolveSlotItem_silent hright, resolveSlotItem_silent hright]
  obtain ⟨held, proof, mask⟩ := slot
  have hmask : mask ||| evidenceSourceMask left.source ||| evidenceSourceMask right.source =
      mask ||| evidenceSourceMask right.source ||| evidenceSourceMask left.source := by
    rw [BitVec.or_assoc, BitVec.or_comm (evidenceSourceMask left.source), ← BitVec.or_assoc]
  simp only [resolveSlotItem, if_neg hleft, if_neg hright]
  cases proof <;> grind

theorem resolveSlotEvidence_perm {evidence other : List DartAbiSlotEvidence}
    (h : evidence.Perm other) : resolveSlotEvidence evidence = resolveSlotEvidence other :=
  h.foldl_eq' (fun left _ right _ slot => resolveSlotItem_right_comm slot left right) _

/-- The items passed over might as well not be there. -/
theorem resolveSlotEvidence_filter (evidence : List DartAbiSlotEvidence) :
    resolveSlotEvidence (evidence.filter fun item =>
      !(item.proof == .unknown || item.representation == .unknown)) =
        resolveSlotEvidence evidence := by
  unfold resolveSlotEvidence
  rw [foldl_filter]
  congr 1
  funext slot item
  by_cases hsilent : item.proof = .unknown ∨ item.representation = .unknown
  · rw [resolveSlotItem_silent hsilent]
    simp
  · simp only [Bool.not_eq_true', Bool.or_eq_false_iff, beq_eq_false_iff_ne]
    rw [if_pos (not_or.mp hsilent)]

/-- What makes a slot conflict: an item that is marked conflicting and names a representation, or
two that prove different ones. -/
theorem resolveSlotEvidence_conflicting_iff {evidence : List DartAbiSlotEvidence} :
    (resolveSlotEvidence evidence).proof = .conflicting ↔
      (∃ item ∈ evidence, item.proof = .conflicting ∧ item.representation ≠ .unknown) ∨
        ∃ left ∈ evidence, ∃ right ∈ evidence, ∃ first second, left.Proves first ∧
          right.Proves second ∧ first ≠ second := by
  by_cases hmarked : ∃ item ∈ evidence, item.proof = .conflicting ∧ item.representation ≠ .unknown
  · refine iff_of_true ?_ (Or.inl hmarked)
    obtain ⟨item, hitem, hproof, hnamed⟩ := hmarked
    obtain ⟨before, after, rfl⟩ := append_of_mem hitem
    rw [resolveSlotEvidence, foldl_append, foldl_cons]
    exact foldl_resolveSlotItem_conflicting (resolveSlotItem_marked hproof hnamed _) after
  rw [or_iff_right hmarked, ← resolveSlotEvidence_filter]
  push Not at hmarked
  have hplain : ∀ item ∈ evidence.filter fun item =>
      !(item.proof == .unknown || item.representation == .unknown),
      item ∈ evidence ∧ item.proof ≠ .conflicting := by
    intro item hitem
    simp only [mem_filter, Bool.not_eq_true', Bool.or_eq_false_iff,
      beq_eq_false_iff_ne] at hitem
    exact ⟨hitem.1, fun hproof => hitem.2.2 (hmarked item hitem.1 hproof)⟩
  rw [(resolveSlotEvidence_resolved fun item hitem => (hplain item hitem).2).conflicting,
    disputed_map_iff]
  constructor
  · rintro ⟨left, hleft, right, hright, first, second, hfirst, hsecond, hne⟩
    obtain ⟨hmemLeft, hplainLeft⟩ := hplain left hleft
    obtain ⟨hmemRight, hplainRight⟩ := hplain right hright
    exact ⟨left, hmemLeft, right, hmemRight, first, second,
      (report_eq_some_iff hplainLeft).mp hfirst, (report_eq_some_iff hplainRight).mp hsecond, hne⟩
  · rintro ⟨left, hleft, right, hright, first, second, hfirst, hsecond, hne⟩
    have hheard : ∀ item ∈ evidence, ∀ value, item.Proves value →
        item ∈ (evidence.filter fun item : DartAbiSlotEvidence =>
          !(item.proof == .unknown || item.representation == .unknown)) ∧
        item.report = some value := by
      intro item hmem value hproves
      have hproof : item.proof ≠ .conflicting := by rw [hproves.1]; decide
      obtain ⟨hproven, rfl, hnamed⟩ := hproves
      refine ⟨mem_filter.mpr ⟨hmem, ?_⟩,
        (report_eq_some_iff hproof).mpr ⟨hproven, rfl, hnamed⟩⟩
      simp only [hproven, Bool.not_eq_true', Bool.or_eq_false_iff, beq_eq_false_iff_ne]
      exact ⟨by decide, hnamed⟩
    obtain ⟨hmemLeft, hreportLeft⟩ := hheard left hleft first hfirst
    obtain ⟨hmemRight, hreportRight⟩ := hheard right hright second hsecond
    exact ⟨left, hmemLeft, right, hmemRight, first, second, hreportLeft, hreportRight, hne⟩

/-! ## One function -/

/-- A slot of a function that evidence is about. -/
inductive EvidenceSlot where
  | parameter (index : Nat)
  | result
  deriving DecidableEq, Repr

/-- The solver resolves the slot of a function with so many parameters. -/
def EvidenceSlot.Resolved (parameterCount : Nat) : EvidenceSlot → Prop
  | .parameter index => index < parameterCount
  | .result => True

/-- What a provider has for the slot. -/
def DartFunctionAbiEvidence.item (provider : DartFunctionAbiEvidence) :
    EvidenceSlot → Option DartAbiSlotEvidence
  | .parameter index => provider.parameters[index]?
  | .result => some provider.result

/-- Two providers prove different representations of the slot. -/
def ProvenTwice (providers : List DartFunctionAbiEvidence) (slot : EvidenceSlot) : Prop :=
  ∃ left ∈ providers, ∃ right ∈ providers, ∃ first second,
    (∃ item, left.item slot = some item ∧ item.Proves first) ∧
      (∃ item, right.item slot = some item ∧ item.Proves second) ∧ first ≠ second

/-- Some provider marks the slot conflicting, with a representation such as this. -/
def MarkedConflicting (providers : List DartFunctionAbiEvidence) (slot : EvidenceSlot)
    (named : DartAbiRepresentation → Prop) : Prop :=
  ∃ provider ∈ providers, ∃ item, provider.item slot = some item ∧ item.proof = .conflicting ∧
    named item.representation

/-- A conflict that the solver sees. -/
def SeenConflict (parameterCount : Nat) (providers : List DartFunctionAbiEvidence) : Prop :=
  (∃ left ∈ providers, ∃ right ∈ providers, ¬ ConventionAgrees left right) ∨
    ∃ slot : EvidenceSlot, slot.Resolved parameterCount ∧
      (MarkedConflicting providers slot (· ≠ .unknown) ∨ ProvenTwice providers slot)

/-- The items that the solver collects for a slot. -/
def slotItems (providers : List DartFunctionAbiEvidence) (slot : EvidenceSlot) :
    List DartAbiSlotEvidence :=
  providers.filterMap (·.item slot)

section Function
variable {providers : List DartFunctionAbiEvidence} {parameterCount : Nat}

theorem slotItems_result :
    slotItems providers .result = providers.map DartFunctionAbiEvidence.result := by
  rw [← filterMap_eq_map]
  rfl

theorem slotItems_conflicting_iff (slot : EvidenceSlot) :
    (resolveSlotEvidence (slotItems providers slot)).proof = .conflicting ↔
      MarkedConflicting providers slot (· ≠ .unknown) ∨ ProvenTwice providers slot := by
  rw [resolveSlotEvidence_conflicting_iff]
  refine or_congr ?_ ?_
  · constructor
    · rintro ⟨item, hitem, hproof, hnamed⟩
      obtain ⟨provider, hprovider, hget⟩ := mem_filterMap.mp hitem
      exact ⟨provider, hprovider, item, hget, hproof, hnamed⟩
    · rintro ⟨provider, hprovider, item, hget, hproof, hnamed⟩
      exact ⟨item, mem_filterMap.mpr ⟨provider, hprovider, hget⟩, hproof, hnamed⟩
  · constructor
    · rintro ⟨left, hleft, right, hright, first, second, hfirst, hsecond, hne⟩
      obtain ⟨leftProvider, hleftProvider, hleftGet⟩ := mem_filterMap.mp hleft
      obtain ⟨rightProvider, hrightProvider, hrightGet⟩ := mem_filterMap.mp hright
      exact ⟨leftProvider, hleftProvider, rightProvider, hrightProvider, first, second,
        ⟨left, hleftGet, hfirst⟩, ⟨right, hrightGet, hsecond⟩, hne⟩
    · rintro ⟨leftProvider, hleftProvider, rightProvider, hrightProvider, first, second,
        ⟨left, hleftGet, hfirst⟩, ⟨right, hrightGet, hsecond⟩, hne⟩
      exact ⟨left, mem_filterMap.mpr ⟨leftProvider, hleftProvider, hleftGet⟩, right,
        mem_filterMap.mpr ⟨rightProvider, hrightProvider, hrightGet⟩, first, second, hfirst,
        hsecond, hne⟩

theorem scanProviders_conflicting_iff :
    (scanProviders providers).conflicting = true ↔
      ∃ left ∈ providers, ∃ right ∈ providers, ¬ ConventionAgrees left right := by
  simp only [scanProviders_conflicting, disputed_map_iff]
  constructor
  · rintro (h | h | h | h) <;> obtain ⟨left, hleft, right, hright, hdiffer⟩ := h <;>
      refine ⟨left, hleft, right, hright, fun hagrees => ?_⟩
    · exact hagrees.closure hdiffer
    · exact hagrees.optional hdiffer
    · exact hagrees.stackCc hdiffer
    · exact hagrees.maxRegs hdiffer
  · rintro ⟨left, hleft, right, hright, hnot⟩
    by_contra hnone
    push Not at hnone
    obtain ⟨hclosure, hoptional, hstack, hregs⟩ := hnone
    exact hnot ⟨hclosure left hleft right hright, hoptional left hleft right hright,
      hstack left hleft right hright, hregs left hleft right hright⟩

/-- The solver marks a function conflicting exactly when it sees a conflict. -/
theorem resolveFunctionAbiEvidence_conflicting_iff :
    (resolveFunctionAbiEvidence providers parameterCount).conflicting = true ↔
      SeenConflict parameterCount providers := by
  have hparameters : ((List.range parameterCount).map fun index => resolveSlotEvidence
        (providers.filterMap fun provider => provider.parameters[index]?)).any
        (fun slot => slot.proof == .conflicting) = true ↔
      ∃ index < parameterCount,
        (resolveSlotEvidence (slotItems providers (.parameter index))).proof = .conflicting := by
    simp only [any_map, any_eq_true, mem_range, Function.comp_apply, beq_iff_eq]
    exact Iff.rfl
  simp only [resolveFunctionAbiEvidence, Bool.or_eq_true, hparameters, beq_iff_eq,
    scanProviders_conflicting_iff, ← slotItems_result, slotItems_conflicting_iff]
  rw [SeenConflict, or_assoc]
  refine or_congr Iff.rfl ⟨?_, ?_⟩
  · rintro (⟨index, hindex, h⟩ | h)
    · exact ⟨.parameter index, hindex, h⟩
    · exact ⟨.result, trivial, h⟩
  · rintro ⟨slot | _, hslot, h⟩
    · exact Or.inl ⟨_, hslot, h⟩
    · exact Or.inr h

/-- A conflict outlives every further provider. -/
theorem SeenConflict.append (h : SeenConflict parameterCount providers)
    (more : List DartFunctionAbiEvidence) : SeenConflict parameterCount (providers ++ more) := by
  have hmem : ∀ provider ∈ providers, provider ∈ providers ++ more := fun provider hprovider =>
    mem_append_left more hprovider
  rcases h with ⟨left, hleft, right, hright, hnot⟩ |
    ⟨slot, hslot, ⟨provider, hprovider, h⟩ | ⟨left, hleft, right, hright, h⟩⟩
  · exact Or.inl ⟨left, hmem left hleft, right, hmem right hright, hnot⟩
  · exact Or.inr ⟨slot, hslot, Or.inl ⟨provider, hmem provider hprovider, h⟩⟩
  · exact Or.inr ⟨slot, hslot, Or.inr ⟨left, hmem left hleft, right, hmem right hright, h⟩⟩

theorem SeenConflict.perm {other : List DartFunctionAbiEvidence}
    (h : SeenConflict parameterCount providers) (hperm : providers.Perm other) :
    SeenConflict parameterCount other := by
  rcases h with ⟨left, hleft, right, hright, hnot⟩ |
    ⟨slot, hslot, ⟨provider, hprovider, h⟩ | ⟨left, hleft, right, hright, h⟩⟩
  · exact Or.inl ⟨left, hperm.mem_iff.mp hleft, right, hperm.mem_iff.mp hright, hnot⟩
  · exact Or.inr ⟨slot, hslot, Or.inl ⟨provider, hperm.mem_iff.mp hprovider, h⟩⟩
  · exact Or.inr ⟨slot, hslot,
      Or.inr ⟨left, hperm.mem_iff.mp hleft, right, hperm.mem_iff.mp hright, h⟩⟩

theorem scanProviders_overrides :
    (scanProviders providers).overrides =
      providers.any DartFunctionAbiEvidence.hasOverridesWithLessDirectParameters := by
  induction providers using List.reverseRecOn with
  | nil => rfl
  | append_singleton providers provider ih =>
    rw [scanProviders_concat, any_append, ← ih]
    simp only [scanProvider, any_cons, any_nil, Bool.or_false]

/-- What the loop over the providers finds out, they agreeing, is the same in every order. -/
theorem scanProviders_perm {other : List DartFunctionAbiEvidence} (hperm : providers.Perm other)
    (h : (scanProviders providers).conflicting = false) :
    scanProviders providers = scanProviders other := by
  have hother : (scanProviders other).conflicting = false := by
    rw [← Bool.not_eq_true, scanProviders_conflicting_iff] at h ⊢
    rintro ⟨left, hleft, right, hright, hnot⟩
    exact h ⟨left, hperm.mem_iff.mpr hleft, right, hperm.mem_iff.mpr hright, hnot⟩
  have hagreed := h
  rw [← Bool.not_eq_true, scanProviders_conflicting] at hagreed
  push Not at hagreed
  obtain ⟨hclosure, hoptional, hstack, hregs⟩ := hagreed
  have hsame : ∀ {α : Type} (report : DartFunctionAbiEvidence → Option α) (value : α),
      some value ∈ providers.map report ↔ some value ∈ other.map report :=
    fun report value => (hperm.map report).mem_iff
  obtain ⟨h₁, h₂, h₃, h₄⟩ := scanProviders_first providers
  obtain ⟨o₁, o₂, o₃, o₄⟩ := scanProviders_first other
  have hoverrides : (scanProviders providers).overrides = (scanProviders other).overrides := by
    rw [scanProviders_overrides, scanProviders_overrides, hperm.any_eq]
  rw [firstReport_congr hclosure (hsame _), ← o₁] at h₁
  rw [firstReport_congr hoptional (hsame _), ← o₂] at h₂
  rw [firstReport_congr hstack (hsame _), ← o₃] at h₃
  rw [firstReport_congr hregs (hsame _), ← o₄] at h₄
  have hconflicting := h.trans hother.symm
  generalize scanProviders providers = scan at h₁ h₂ h₃ h₄ hoverrides hconflicting ⊢
  generalize scanProviders other = scan' at h₁ h₂ h₃ h₄ hoverrides hconflicting ⊢
  cases scan
  cases scan'
  simp_all only

theorem resolveFunctionAbiEvidence_perm {other : List DartFunctionAbiEvidence}
    (hperm : providers.Perm other) (h : ¬ SeenConflict parameterCount providers) :
    resolveFunctionAbiEvidence providers parameterCount =
      resolveFunctionAbiEvidence other parameterCount := by
  have hscan : (scanProviders providers).conflicting = false := by
    rw [← Bool.not_eq_true, scanProviders_conflicting_iff]
    exact fun hconvention => h (Or.inl hconvention)
  have hparameters : ∀ index : Nat, resolveSlotEvidence (providers.filterMap fun provider =>
      provider.parameters[index]?) = resolveSlotEvidence (other.filterMap fun provider =>
      provider.parameters[index]?) := fun index =>
    resolveSlotEvidence_perm (hperm.filterMap _)
  simp only [resolveFunctionAbiEvidence, hparameters, scanProviders_perm hperm hscan,
    resolveSlotEvidence_perm (hperm.map DartFunctionAbiEvidence.result)]

end Function

/-! ## Solving evidence -/

section Solving
variable {providers : List DartFunctionAbiEvidence} {parameterCount : Nat}

/-- The order of the providers does not matter, and no conflict is lost. -/
structure EvidenceSolving (providers : List DartFunctionAbiEvidence) (parameterCount : Nat) :
    Prop where
  order : ∀ other, other.Perm providers → ∀ profile closureCall,
    let solved := computeDartCallLayout (resolveFunctionAbiEvidence providers parameterCount)
      profile closureCall
    let solved' := computeDartCallLayout (resolveFunctionAbiEvidence other parameterCount)
      profile closureCall
    solved'.1 = solved.1 ∧ (solved.1 = .ok → solved'.2 = solved.2)
  conflict : ∀ slot : EvidenceSlot, slot.Resolved parameterCount →
    MarkedConflicting providers slot (fun _ => True) ∨ ProvenTwice providers slot →
    (resolveFunctionAbiEvidence providers parameterCount).conflicting = true
  lasting : (resolveFunctionAbiEvidence providers parameterCount).conflicting = true →
    ∀ more profile closureCall, (computeDartCallLayout
      (resolveFunctionAbiEvidence (providers ++ more) parameterCount) profile closureCall).1 ≠ .ok

theorem computeDartCallLayout_ne_ok {abi : DartFunctionAbiResolution} (h : abi.conflicting = true)
    (profile : DartCallingConventionProfile) (closureCall : Bool) :
    (computeDartCallLayout abi profile closureCall).1 ≠ .ok := by
  unfold computeDartCallLayout
  rw [if_pos h]
  split
  · exact nofun
  · exact nofun

/-- Two conflicting resolutions give the same status. -/
theorem computeDartCallLayout_both_conflicting {left right : DartFunctionAbiResolution}
    (hleft : left.conflicting = true) (hright : right.conflicting = true)
    (profile : DartCallingConventionProfile) (closureCall : Bool) :
    computeDartCallLayout left profile closureCall =
      computeDartCallLayout right profile closureCall := by
  simp only [computeDartCallLayout, if_pos hleft, if_pos hright]

theorem solving_order {other : List DartFunctionAbiEvidence} (hperm : other.Perm providers)
    (profile : DartCallingConventionProfile) (closureCall : Bool) :
    computeDartCallLayout (resolveFunctionAbiEvidence other parameterCount) profile closureCall =
      computeDartCallLayout (resolveFunctionAbiEvidence providers parameterCount) profile
        closureCall := by
  by_cases h : SeenConflict parameterCount other
  · exact computeDartCallLayout_both_conflicting (resolveFunctionAbiEvidence_conflicting_iff.mpr h)
      (resolveFunctionAbiEvidence_conflicting_iff.mpr (h.perm hperm)) profile closureCall
  · rw [resolveFunctionAbiEvidence_perm hperm h]

theorem solving_lasting
    (h : (resolveFunctionAbiEvidence providers parameterCount).conflicting = true)
    (more : List DartFunctionAbiEvidence) (profile : DartCallingConventionProfile)
    (closureCall : Bool) : (computeDartCallLayout
      (resolveFunctionAbiEvidence (providers ++ more) parameterCount) profile closureCall).1 ≠
        .ok := by
  have hseen := (resolveFunctionAbiEvidence_conflicting_iff.mp h).append more
  exact computeDartCallLayout_ne_ok (resolveFunctionAbiEvidence_conflicting_iff.mpr hseen) profile
    closureCall

/-- Solving is as it should be exactly when a slot that is marked conflicting without a
representation is in conflict for some other reason as well. -/
theorem evidence_solving_iff :
    EvidenceSolving providers parameterCount ↔
      ((∃ slot : EvidenceSlot, slot.Resolved parameterCount ∧
        MarkedConflicting providers slot (· = .unknown)) →
          SeenConflict parameterCount providers) := by
  constructor
  · rintro h ⟨slot, hslot, provider, hprovider, item, hitem, hproof, -⟩
    exact resolveFunctionAbiEvidence_conflicting_iff.mp
      (h.conflict slot hslot (Or.inl ⟨provider, hprovider, item, hitem, hproof, trivial⟩))
  · intro h
    refine ⟨fun other hperm profile closureCall => ?_, fun slot hslot hconflict => ?_,
      fun hconflicting more profile closureCall =>
        solving_lasting hconflicting more profile closureCall⟩
    · rw [solving_order hperm]
      exact ⟨rfl, fun _ => rfl⟩
    · rw [resolveFunctionAbiEvidence_conflicting_iff]
      rcases hconflict with ⟨provider, hprovider, item, hitem, hproof, -⟩ | htwice
      · by_cases hnamed : item.representation = .unknown
        · exact h ⟨slot, hslot, provider, hprovider, item, hitem, hproof, hnamed⟩
        · exact Or.inr ⟨slot, hslot, Or.inl ⟨provider, hprovider, item, hitem, hproof, hnamed⟩⟩
      · exact Or.inr ⟨slot, hslot, Or.inr htwice⟩

/-- The analyzer marks a result conflicting, the way it marks every conflict: without a
representation.  The oracle's word for it stands. -/
def markedProvider : DartFunctionAbiEvidence where
  parameters := []
  result := ⟨.unknown, .aotCodeAnalysis, .conflicting⟩

def oracleProvider : DartFunctionAbiEvidence where
  parameters := []
  result := ⟨.tagged, .compilerOracle, .proven⟩
  hasStackCallingConvention := true
  hasOptionalParameterInfo := true
  hasMaxParametersInRegisters := true

theorem marked_without_name_forgotten :
    ¬ EvidenceSolving [markedProvider, oracleProvider] 0 ∧
      (computeDartCallLayout (resolveFunctionAbiEvidence [markedProvider, oracleProvider] 0)
        arm64AotCallingConventionProfile false).1 = .ok := by
  refine ⟨fun h => ?_, by decide⟩
  have hconflict := h.conflict .result trivial
    (Or.inl ⟨markedProvider, mem_cons_self, _, rfl, rfl, trivial⟩)
  revert hconflict
  decide

end Solving

end DartPlant
