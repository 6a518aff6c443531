import DartPlant.Abi.CallLayout
import DartPlant.Lib.Consensus

/-! # Evidence about a Dart function's ABI

Providers report on the parameters, on the result and on the calling convention of one function.
Facts on which two providers differ never degrade to a guess: the resolution is marked conflicting.
`resolveFunctionAbiEvidence_conflicting` says when, as a dispute among the providers.
-/

namespace DartPlant
open Consensus List

inductive DartAbiEvidenceSource where
  | unknown
  | compilerOracle
  | aotCodeAnalysis
  | verifiedFixture
  deriving DecidableEq, Repr

inductive DartAbiProofState where
  | unknown
  | proven
  | conflicting
  deriving DecidableEq, Repr

structure DartAbiSlotEvidence where
  representation : DartAbiRepresentation := .unknown
  source : DartAbiEvidenceSource := .unknown
  proof : DartAbiProofState := .unknown
  deriving DecidableEq, Repr

open DartAbiSlotEvidence

structure DartAbiResolvedSlot where
  representation : DartAbiRepresentation := .unknown
  proof : DartAbiProofState := .unknown
  sourceMask : BitVec 32 := 0
  deriving DecidableEq, Repr

structure DartFunctionAbiEvidence where
  parameters : List DartAbiSlotEvidence
  result : DartAbiSlotEvidence
  hasStackCallingConvention : Bool := false
  mustUseStackCallingConvention : Bool := false
  hasOverridesWithLessDirectParameters : Bool := false
  hasOptionalParameterInfo : Bool := false
  hasOptionalParameters : Bool := false
  hasMaxParametersInRegisters : Bool := false
  maxParametersInRegisters : Nat := 0
  isClosure : Bool := false
  deriving DecidableEq, Repr

structure DartFunctionAbiResolution where
  parameters : List DartAbiResolvedSlot := []
  result : DartAbiResolvedSlot := {}
  hasStackCallingConvention : Bool := false
  mustUseStackCallingConvention : Bool := false
  hasOverridesWithLessDirectParameters : Bool := false
  hasOptionalParameterInfo : Bool := false
  hasOptionalParameters : Bool := false
  hasMaxParametersInRegisters : Bool := false
  maxParametersInRegisters : Nat := 0
  isClosure : Bool := false
  fullyProven : Bool := false
  conflicting : Bool := false
  deriving DecidableEq, Repr

def evidenceSourceMask : DartAbiEvidenceSource → BitVec 32
  | .unknown => 0
  | .compilerOracle => 1 <<< 0
  | .aotCodeAnalysis => 1 <<< 1
  | .verifiedFixture => 1 <<< 2

/-! ## Slots -/

/-- One turn of the loop of `ResolveSlotEvidence`. -/
def resolveSlotItem (resolved : DartAbiResolvedSlot) (item : DartAbiSlotEvidence) :
    DartAbiResolvedSlot :=
  if item.proof = .unknown ∨ item.representation = .unknown then resolved
  else
    let resolved := { resolved with
      sourceMask := resolved.sourceMask ||| evidenceSourceMask item.source }
    if item.proof = .conflicting then
      { resolved with representation := .unknown, proof := .conflicting }
    else if resolved.proof = .unknown then
      { resolved with representation := item.representation, proof := .proven }
    else if resolved.proof = .proven ∧ resolved.representation ≠ item.representation then
      { resolved with representation := .unknown, proof := .conflicting }
    else resolved

/-- `ResolveSlotEvidence`. -/
def resolveSlotEvidence (evidence : List DartAbiSlotEvidence) : DartAbiResolvedSlot :=
  evidence.foldl resolveSlotItem {}

/-- `IsProven`, the `slot_proven` of the solver. -/
def DartAbiResolvedSlot.isProven (slot : DartAbiResolvedSlot) : Bool :=
  slot.proof == .proven && slot.representation != .unknown

/-! ## Functions -/

/-- The locals of the loop over the providers: each fact as it was first seen. -/
structure ConventionScan where
  overrides : Bool := false
  closure : Option Bool := none
  optional : Option Bool := none
  stackCc : Option Bool := none
  maxRegs : Option Nat := none
  conflicting : Bool := false
  deriving DecidableEq, Repr

namespace DartFunctionAbiEvidence

/-- What a provider says about the optional parameters, if it says anything. -/
def optionalReport (provider : DartFunctionAbiEvidence) : Option Bool :=
  if provider.hasOptionalParameterInfo then some provider.hasOptionalParameters else none

def stackCcReport (provider : DartFunctionAbiEvidence) : Option Bool :=
  if provider.hasStackCallingConvention then some provider.mustUseStackCallingConvention else none

def maxRegsReport (provider : DartFunctionAbiEvidence) : Option Nat :=
  if provider.hasMaxParametersInRegisters then some provider.maxParametersInRegisters else none

end DartFunctionAbiEvidence

/-- One turn of the loop over the providers: a fact is kept when it is first seen, and compared from
then on. -/
def scanProvider (scan : ConventionScan) (provider : DartFunctionAbiEvidence) : ConventionScan where
  overrides := scan.overrides || provider.hasOverridesWithLessDirectParameters
  closure := scan.closure <|> some provider.isClosure
  optional := scan.optional <|> provider.optionalReport
  stackCc := scan.stackCc <|> provider.stackCcReport
  maxRegs := scan.maxRegs <|> provider.maxRegsReport
  conflicting := scan.conflicting || differs scan.closure (some provider.isClosure) ||
    differs scan.optional provider.optionalReport || differs scan.stackCc provider.stackCcReport ||
    differs scan.maxRegs provider.maxRegsReport

def scanProviders (providers : List DartFunctionAbiEvidence) : ConventionScan :=
  providers.foldl scanProvider {}

/-- `ResolveFunctionAbiEvidence`. -/
def resolveFunctionAbiEvidence (providers : List DartFunctionAbiEvidence) (parameterCount : Nat) :
    DartFunctionAbiResolution :=
  let parameters := (List.range parameterCount).map fun index =>
    resolveSlotEvidence (providers.filterMap fun provider => provider.parameters[index]?)
  let result := resolveSlotEvidence (providers.map DartFunctionAbiEvidence.result)
  let scan := scanProviders providers
  -- The `has_*` flags look at the conflicts of the loop, before those of the slots are added.
  let hasStackCallingConvention := scan.stackCc.isSome && !scan.conflicting
  let hasOptionalParameterInfo := scan.optional.isSome && !scan.conflicting
  let hasMaxParametersInRegisters := scan.maxRegs.isSome && !scan.conflicting
  let conflicting := scan.conflicting || parameters.any (fun slot => slot.proof == .conflicting) ||
    result.proof == .conflicting
  { parameters := parameters
    result := result
    hasStackCallingConvention := hasStackCallingConvention
    mustUseStackCallingConvention := scan.stackCc.getD false
    hasOverridesWithLessDirectParameters := scan.overrides
    hasOptionalParameterInfo := hasOptionalParameterInfo
    hasOptionalParameters := scan.optional.getD false
    hasMaxParametersInRegisters := hasMaxParametersInRegisters
    maxParametersInRegisters := scan.maxRegs.getD 0
    isClosure := scan.closure.getD false
    fullyProven := !conflicting && hasStackCallingConvention && hasOptionalParameterInfo &&
      hasMaxParametersInRegisters && result.isProven &&
      parameters.all DartAbiResolvedSlot.isProven
    conflicting := conflicting }

/-! ## What a slot resolves to -/

/-- What an item says about its slot; it must not be marked conflicting by its own reporter. -/
def DartAbiSlotEvidence.report (item : DartAbiSlotEvidence) : Option DartAbiRepresentation :=
  if item.proof = .unknown ∨ item.representation = .unknown then none
  else some item.representation

/-- No reporter marks the slot conflicting by itself. -/
def Plain (evidence : List DartAbiSlotEvidence) : Prop :=
  ∀ item ∈ evidence, item.proof ≠ .conflicting

/-- How a resolved slot stands to what was reported. -/
structure SlotResolved (slot : DartAbiResolvedSlot) (reports : List (Option DartAbiRepresentation)) :
    Prop where
  conflicting : slot.proof = .conflicting ↔ Disputed reports
  unknown : slot.proof = .unknown ↔ firstReport reports = none
  proven : slot.proof = .proven → some slot.representation = firstReport reports

theorem report_ne_unknown {item : DartAbiSlotEvidence} : item.report ≠ some .unknown := by
  intro h
  by_cases hitem : item.proof = .unknown ∨ item.representation = .unknown
  · rw [report, if_pos hitem] at h
    cases h
  · rw [report, if_neg hitem] at h
    exact hitem (Or.inr (Option.some.inj h))

/-- One more item keeps the slot in step with the reports. -/
theorem SlotResolved.item {slot : DartAbiResolvedSlot}
    {reports : List (Option DartAbiRepresentation)} (h : SlotResolved slot reports)
    {item : DartAbiSlotEvidence} (hitem : item.proof ≠ .conflicting) :
    SlotResolved (resolveSlotItem slot item) (reports ++ [item.report]) := by
  by_cases hsilent : item.proof = .unknown ∨ item.representation = .unknown
  · rw [resolveSlotItem, if_pos hsilent, report, if_pos hsilent]
    have hnone : differs (firstReport reports) none = false := by
      cases firstReport reports <;> rfl
    refine ⟨?_, ?_, fun hproven => ?_⟩
    · rw [disputed_concat, hnone, h.conflicting]
      simp only [Bool.false_eq_true, or_false]
    · rw [firstReport_concat, h.unknown]
      cases firstReport reports <;> simp only [Option.orElse_eq_orElse, Option.orElse_none,
        Option.orElse_some]
    · rw [firstReport_concat, h.proven hproven]
      cases hfirst : firstReport reports <;> rfl
  · rw [resolveSlotItem, if_neg hsilent, report, if_neg hsilent]
    dsimp only
    rw [if_neg hitem]
    cases hproof : slot.proof with
    | unknown =>
      have hfirst := h.unknown.mp hproof
      rw [if_pos rfl]
      refine ⟨?_, ?_, fun _ => ?_⟩
      · rw [disputed_concat, hfirst, ← h.conflicting, hproof]
        simp only [reduceCtorEq, differs, Bool.false_eq_true, or_false]
      · rw [firstReport_concat, hfirst]
        simp only [reduceCtorEq, Option.orElse_eq_orElse, Option.orElse_none]
      · rw [firstReport_concat, hfirst]
        rfl
    | proven =>
      have hfirst := (h.proven hproof).symm
      rw [if_neg (fun h => nomatch h)]
      by_cases hsame : slot.representation = item.representation
      · rw [if_neg fun hne => hne.2 hsame]
        refine ⟨?_, ?_, fun _ => ?_⟩
        · rw [disputed_concat, hfirst, ← h.conflicting, hproof]
          simp only [reduceCtorEq, differs, hsame, ne_eq, not_true_eq_false, decide_false,
            Bool.false_eq_true, or_false]
        · rw [firstReport_concat, hfirst]
          simp only [reduceCtorEq, Option.orElse_eq_orElse, Option.orElse_some]
        · rw [firstReport_concat, hfirst]
          rfl
      · rw [if_pos ⟨rfl, hsame⟩]
        refine ⟨?_, ?_, fun hproven => nomatch hproven⟩
        · rw [disputed_concat, hfirst]
          simp only [differs, ne_eq, hsame, not_false_eq_true, decide_true, or_true]
        · rw [firstReport_concat, hfirst]
          simp only [reduceCtorEq, Option.orElse_eq_orElse, Option.orElse_some]
    | conflicting =>
      have hdisputed := h.conflicting.mp hproof
      rw [if_neg (fun h => nomatch h), if_neg fun hboth => nomatch hboth.1]
      refine ⟨?_, ?_, fun hproven => nomatch hproven⟩
      · rw [disputed_concat]
        simp only [hdisputed, true_or]
      · have hsome : firstReport reports ≠ none := by
          intro hnone
          obtain ⟨left, _, hleft, -, -⟩ := hdisputed
          exact firstReport_eq_none_iff.mp hnone left hleft
        rw [firstReport_concat]
        cases hfirst : firstReport reports with
        | none => exact absurd hfirst hsome
        | some first => simp only [reduceCtorEq, Option.orElse_eq_orElse, Option.orElse_some]

theorem resolveSlotEvidence_resolved {evidence : List DartAbiSlotEvidence} (h : Plain evidence) :
    SlotResolved (resolveSlotEvidence evidence) (evidence.map report) := by
  induction evidence using List.reverseRecOn with
  | nil =>
    refine ⟨⟨fun h => ?_, fun h => absurd h not_disputed_nil⟩, ⟨fun _ => rfl, fun _ => rfl⟩,
      fun h => ?_⟩
    · cases h
    · cases h
  | append_singleton evidence item ih =>
    rw [resolveSlotEvidence, foldl_append, map_append]
    exact (ih fun other hmem => h other (mem_append_left _ hmem)).item
      (h item (mem_append_right _ (mem_singleton_self _)))

/-- A slot is proven when something is said about it, and nothing else. -/
theorem SlotResolved.isProven_iff {slot : DartAbiResolvedSlot}
    {reports : List (Option DartAbiRepresentation)} (h : SlotResolved slot reports)
    (hknown : some .unknown ∉ reports) :
    slot.isProven = true ↔ ¬ Disputed reports ∧ ∃ value, some value ∈ reports := by
  simp only [DartAbiResolvedSlot.isProven, Bool.and_eq_true, beq_iff_eq, bne_iff_ne]
  constructor
  · rintro ⟨hproven, -⟩
    refine ⟨fun hdisputed => ?_, slot.representation, ?_⟩
    · rw [h.conflicting.mpr hdisputed] at hproven
      cases hproven
    · exact firstReport_mem (h.proven hproven).symm
  · rintro ⟨hagreed, value, hvalue⟩
    have hproven : slot.proof = .proven := by
      cases hproof : slot.proof with
      | unknown => exact absurd hvalue (firstReport_eq_none_iff.mp (h.unknown.mp hproof) value)
      | proven => rfl
      | conflicting => exact absurd (h.conflicting.mp hproof) hagreed
    refine ⟨hproven, fun hunknown => hknown ?_⟩
    have hfirst := firstReport_mem (h.proven hproven).symm
    rwa [hunknown] at hfirst

/-- What a proven slot is resolved to was said about it. -/
theorem SlotResolved.mem {slot : DartAbiResolvedSlot}
    {reports : List (Option DartAbiRepresentation)} (h : SlotResolved slot reports)
    (hproven : slot.isProven = true) : some slot.representation ∈ reports := by
  simp only [DartAbiResolvedSlot.isProven, Bool.and_eq_true, beq_iff_eq] at hproven
  exact firstReport_mem (h.proven hproven.1).symm

/-! ## When providers conflict -/

namespace DartFunctionAbiEvidence

def closureReport (provider : DartFunctionAbiEvidence) : Option Bool := some provider.isClosure

def parameterReport (index : Nat) (provider : DartFunctionAbiEvidence) :
    Option DartAbiRepresentation :=
  provider.parameters[index]?.bind report

def resultReport (provider : DartFunctionAbiEvidence) : Option DartAbiRepresentation :=
  provider.result.report

/-- The provider marks nothing conflicting by itself. -/
structure Plain (provider : DartFunctionAbiEvidence) : Prop where
  parameters : ∀ item ∈ provider.parameters, item.proof ≠ .conflicting
  result : provider.result.proof ≠ .conflicting

end DartFunctionAbiEvidence

open DartFunctionAbiEvidence

/-- Two providers say the same about the calling convention. -/
structure ConventionAgrees (left right : DartFunctionAbiEvidence) : Prop where
  closure : ¬ DisagreeOn closureReport left right
  optional : ¬ DisagreeOn optionalReport left right
  stackCc : ¬ DisagreeOn stackCcReport left right
  maxRegs : ¬ DisagreeOn maxRegsReport left right

/-- Two providers say the same wherever both say something, about so many parameters. -/
structure Agrees (parameterCount : Nat) (left right : DartFunctionAbiEvidence) : Prop where
  convention : ConventionAgrees left right
  parameters : ∀ index < parameterCount, ¬ DisagreeOn (parameterReport index) left right
  result : ¬ DisagreeOn resultReport left right

theorem scanProviders_concat (providers : List DartFunctionAbiEvidence)
    (provider : DartFunctionAbiEvidence) :
    scanProviders (providers ++ [provider]) = scanProvider (scanProviders providers) provider := by
  simp only [scanProviders, foldl_append, foldl_cons, foldl_nil]

/-- The scan holds the first report of each fact. -/
theorem scanProviders_first (providers : List DartFunctionAbiEvidence) :
    (scanProviders providers).closure = firstReport (providers.map closureReport) ∧
      (scanProviders providers).optional = firstReport (providers.map optionalReport) ∧
      (scanProviders providers).stackCc = firstReport (providers.map stackCcReport) ∧
      (scanProviders providers).maxRegs = firstReport (providers.map maxRegsReport) := by
  induction providers using List.reverseRecOn with
  | nil => exact ⟨rfl, rfl, rfl, rfl⟩
  | append_singleton providers provider ih =>
    obtain ⟨hclosure, hoptional, hstack, hregs⟩ := ih
    rw [scanProviders_concat]
    simp only [map_append, map_cons, map_nil, firstReport_concat, scanProvider,
      hclosure, hoptional, hstack, hregs, closureReport, and_self]

/-- The loop notices exactly the disputes about the calling convention. -/
theorem scanProviders_conflicting (providers : List DartFunctionAbiEvidence) :
    (scanProviders providers).conflicting = true ↔
      Disputed (providers.map closureReport) ∨ Disputed (providers.map optionalReport) ∨
        Disputed (providers.map stackCcReport) ∨ Disputed (providers.map maxRegsReport) := by
  induction providers using List.reverseRecOn with
  | nil =>
    constructor
    · intro h
      cases h
    · rintro (h | h | h | h) <;> exact absurd h not_disputed_nil
  | append_singleton providers provider ih =>
    obtain ⟨hclosure, hoptional, hstack, hregs⟩ := scanProviders_first providers
    rw [scanProviders_concat]
    simp only [map_append, map_cons, map_nil, disputed_concat, scanProvider,
      Bool.or_eq_true, ih, hclosure, hoptional, hstack, hregs, closureReport]
    tauto

/-- The reports about one parameter, as the solver collects them. -/
theorem disputed_parameter_iff {providers : List DartFunctionAbiEvidence} {index : Nat} :
    Disputed ((providers.filterMap fun provider => provider.parameters[index]?).map
        report) ↔
      Disputed (providers.map (parameterReport index)) := by
  have hmem : ∀ value, some value ∈ (providers.filterMap fun provider =>
        provider.parameters[index]?).map report ↔
      some value ∈ providers.map (parameterReport index) := by
    intro value
    simp only [mem_map, mem_filterMap, parameterReport]
    constructor
    · rintro ⟨item, ⟨provider, hprovider, hitem⟩, hreport⟩
      exact ⟨provider, hprovider, by rw [hitem]; exact hreport⟩
    · rintro ⟨provider, hprovider, hreport⟩
      obtain ⟨item, hitem, hreport⟩ := Option.bind_eq_some_iff.mp hreport
      exact ⟨item, ⟨provider, hprovider, hitem⟩, hreport⟩
  exact ⟨fun h => h.mono fun value => (hmem value).mp, fun h => h.mono fun value => (hmem value).mpr⟩

/-- A parameter's slot is resolved from what the providers report about it. -/
theorem parameter_resolved {providers : List DartFunctionAbiEvidence}
    (hplain : ∀ provider ∈ providers, provider.Plain) (index : Nat) :
    SlotResolved
      (resolveSlotEvidence (providers.filterMap fun provider => provider.parameters[index]?))
      ((providers.filterMap fun provider => provider.parameters[index]?).map
        report) := by
  apply resolveSlotEvidence_resolved
  intro item hitem
  obtain ⟨provider, hprovider, hget⟩ := mem_filterMap.mp hitem
  exact (hplain provider hprovider).parameters item (mem_of_getElem? hget)

theorem result_resolved {providers : List DartFunctionAbiEvidence}
    (hplain : ∀ provider ∈ providers, provider.Plain) :
    SlotResolved (resolveSlotEvidence (providers.map DartFunctionAbiEvidence.result))
      (providers.map resultReport) := by
  have h : Plain (providers.map DartFunctionAbiEvidence.result) := by
    intro item hitem
    obtain ⟨provider, hprovider, rfl⟩ := mem_map.mp hitem
    exact (hplain provider hprovider).result
  have hresolved := resolveSlotEvidence_resolved h
  rwa [map_map] at hresolved

/-- The solver marks a function conflicting exactly when two of its providers differ. -/
theorem resolveFunctionAbiEvidence_conflicting {providers : List DartFunctionAbiEvidence}
    (hplain : ∀ provider ∈ providers, provider.Plain) (parameterCount : Nat) :
    (resolveFunctionAbiEvidence providers parameterCount).conflicting = true ↔
      ∃ left ∈ providers, ∃ right ∈ providers, ¬ Agrees parameterCount left right := by
  have hslots : ((List.range parameterCount).map fun index => resolveSlotEvidence
        (providers.filterMap fun provider => provider.parameters[index]?)).any
        (fun slot => slot.proof == .conflicting) = true ↔
      ∃ index < parameterCount, Disputed (providers.map (parameterReport index)) := by
    simp only [any_map, any_eq_true, mem_range, Function.comp_apply, beq_iff_eq,
      (parameter_resolved hplain _).conflicting, disputed_parameter_iff]
  simp only [resolveFunctionAbiEvidence, Bool.or_eq_true, hslots, beq_iff_eq,
    (result_resolved hplain).conflicting, scanProviders_conflicting, disputed_map_iff]
  constructor
  · rintro (((h | h | h | h) | ⟨index, hindex, h⟩) | h) <;>
      obtain ⟨left, hleft, right, hright, hdiffer⟩ := h <;>
      refine ⟨left, hleft, right, hright, fun hagrees => ?_⟩
    · exact hagrees.convention.closure hdiffer
    · exact hagrees.convention.optional hdiffer
    · exact hagrees.convention.stackCc hdiffer
    · exact hagrees.convention.maxRegs hdiffer
    · exact hagrees.parameters index hindex hdiffer
    · exact hagrees.result hdiffer
  · rintro ⟨left, hleft, right, hright, hnot⟩
    by_contra hnone
    push Not at hnone
    obtain ⟨⟨⟨hclosure, hoptional, hstack, hregs⟩, hparameters⟩, hresult⟩ := hnone
    exact hnot ⟨⟨hclosure left hleft right hright, hoptional left hleft right hright,
      hstack left hleft right hright, hregs left hleft right hright⟩,
      fun index hindex => hparameters index hindex left hleft right hright,
      hresult left hleft right hright⟩

end DartPlant
