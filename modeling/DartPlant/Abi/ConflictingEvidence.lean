import DartPlant.Abi.RuntimeEvidence
import DartPlant.Lib.FallibleLoop

/-! # Conflicting evidence

What an entry is after any submissions is a function of the ones that passed their checks.  A
provider that was kept is compared with every later one, so its conflicts last.  A submission that
changes the formal count is not kept: it only marks the entry, and the next submission with the
established count solves the entry again, from providers that agree.
-/

namespace DartPlant
open Consensus SharedLedger DartFunctionAbiEvidence List

/-! ## Complete evidence -/

/-- A provider as a submission makes it: its slots are plain and no parameter is a pair, and it
reports every flag. -/
structure CompilerProvider (provider : DartFunctionAbiEvidence) : Prop where
  plain : provider.Plain
  noPair : ∀ item ∈ provider.parameters, item.representation ≠ .pairOfTagged
  stackCc : provider.hasStackCallingConvention = true
  optional : provider.hasOptionalParameterInfo = true
  maxRegs : provider.hasMaxParametersInRegisters = true

/-- Evidence that determines a layout: the providers agree, between them they know every slot, and
only a closure call has optional parameters. -/
structure CompleteEvidence (closureCall : Bool) (parameterCount : Nat)
    (providers : List DartFunctionAbiEvidence) : Prop where
  agree : ∀ left ∈ providers, ∀ right ∈ providers, Agrees parameterCount left right
  parameters : ∀ index < parameterCount, ∃ provider ∈ providers,
    parameterReport index provider ≠ none
  result : ∃ provider ∈ providers, resultReport provider ≠ none
  optional : closureCall = true ∨ ∀ provider ∈ providers, provider.hasOptionalParameters = false

section Complete
variable {providers : List DartFunctionAbiEvidence} {parameterCount : Nat} {closureCall : Bool}

theorem parameterReport_known {provider : DartFunctionAbiEvidence} {index : Nat} :
    parameterReport index provider ≠ some .unknown := by
  intro h
  obtain ⟨item, -, hitem⟩ := Option.bind_eq_some_iff.mp h
  exact report_ne_unknown hitem

/-- Without a conflict among them, the providers all say what the scan holds. -/
theorem firstReport_of_all {ρ α : Type} (report : ρ → Option α) {reporters : List ρ}
    (hne : reporters ≠ []) (hsome : ∀ reporter ∈ reporters, report reporter ≠ none)
    (hagree : ¬ Disputed (reporters.map report)) :
    ∃ value, firstReport (reporters.map report) = some value ∧
      ∀ reporter ∈ reporters, report reporter = some value := by
  cases hfirst : firstReport (reporters.map report) with
  | none =>
    obtain ⟨reporter, hmem⟩ := exists_mem_of_ne_nil reporters hne
    obtain ⟨value, hvalue⟩ := Option.ne_none_iff_exists'.mp (hsome reporter hmem)
    exact absurd (mem_map.mpr ⟨reporter, hmem, hvalue⟩)
      (firstReport_eq_none_iff.mp hfirst value)
  | some value =>
    refine ⟨value, rfl, fun reporter hmem => ?_⟩
    obtain ⟨other, hother⟩ := Option.ne_none_iff_exists'.mp (hsome reporter hmem)
    rw [hother, eq_of_not_disputed hagree (mem_map.mpr ⟨reporter, hmem, hother⟩)
      (firstReport_mem hfirst)]

/-- A slot is proven when the providers agree about it and one knows it. -/
theorem parameter_isProven_iff (hplain : ∀ provider ∈ providers, provider.Plain) (index : Nat) :
    (resolveSlotEvidence (providers.filterMap fun provider =>
        provider.parameters[index]?)).isProven = true ↔
      ¬ Disputed (providers.map (parameterReport index)) ∧
        ∃ provider ∈ providers, parameterReport index provider ≠ none := by
  have hresolved := parameter_resolved hplain index
  have hmem : ∀ value, some value ∈ (providers.filterMap fun provider =>
        provider.parameters[index]?).map DartAbiSlotEvidence.report ↔
      ∃ provider ∈ providers, parameterReport index provider = some value := by
    intro value
    simp only [mem_map, mem_filterMap, parameterReport, Option.bind_eq_some_iff]
    constructor
    · rintro ⟨item, ⟨provider, hprovider, hitem⟩, hreport⟩
      exact ⟨provider, hprovider, item, hitem, hreport⟩
    · rintro ⟨provider, hprovider, item, hitem, hreport⟩
      exact ⟨item, ⟨provider, hprovider, hitem⟩, hreport⟩
  rw [hresolved.isProven_iff, disputed_parameter_iff]
  · refine and_congr Iff.rfl ⟨?_, ?_⟩
    · rintro ⟨value, hvalue⟩
      obtain ⟨provider, hprovider, hreport⟩ := (hmem value).mp hvalue
      exact ⟨provider, hprovider, by rw [hreport]; exact Option.some_ne_none _⟩
    · rintro ⟨provider, hprovider, hreport⟩
      obtain ⟨value, hvalue⟩ := Option.ne_none_iff_exists'.mp hreport
      exact ⟨value, (hmem value).mpr ⟨provider, hprovider, hvalue⟩⟩
  · intro hunknown
    obtain ⟨provider, -, hreport⟩ := (hmem _).mp hunknown
    exact parameterReport_known hreport

theorem result_isProven_iff (hplain : ∀ provider ∈ providers, provider.Plain) :
    (resolveSlotEvidence (providers.map DartFunctionAbiEvidence.result)).isProven = true ↔
      ¬ Disputed (providers.map resultReport) ∧
        ∃ provider ∈ providers, resultReport provider ≠ none := by
  rw [(result_resolved hplain).isProven_iff]
  · refine and_congr Iff.rfl ⟨?_, ?_⟩
    · rintro ⟨value, hvalue⟩
      obtain ⟨provider, hprovider, hreport⟩ := mem_map.mp hvalue
      exact ⟨provider, hprovider, by rw [hreport]; exact Option.some_ne_none _⟩
    · rintro ⟨provider, hprovider, hreport⟩
      obtain ⟨value, hvalue⟩ := Option.ne_none_iff_exists'.mp hreport
      exact ⟨value, mem_map.mpr ⟨provider, hprovider, hvalue⟩⟩
  · intro hunknown
    obtain ⟨provider, -, hreport⟩ := mem_map.mp hunknown
    exact report_ne_unknown hreport

theorem disputed_iff_disagree {α : Type} {report : DartFunctionAbiEvidence → Option α} :
    ¬ Disputed (providers.map report) ↔
      ∀ left ∈ providers, ∀ right ∈ providers, ¬ DisagreeOn report left right := by
  rw [disputed_map_iff]
  push Not
  exact Iff.rfl

/-- The facts of the calling convention, resolved from providers that all report them and agree. -/
theorem resolved_convention (hcompiler : ∀ provider ∈ providers, CompilerProvider provider)
    (hne : providers ≠ [])
    (hconflict : (resolveFunctionAbiEvidence providers parameterCount).conflicting = false)
    (hagree : ∀ left ∈ providers, ∀ right ∈ providers, Agrees parameterCount left right) :
    (resolveFunctionAbiEvidence providers parameterCount).hasStackCallingConvention = true ∧
      (resolveFunctionAbiEvidence providers parameterCount).hasOptionalParameterInfo = true ∧
      (resolveFunctionAbiEvidence providers parameterCount).hasMaxParametersInRegisters = true ∧
      ∀ provider ∈ providers, provider.hasOptionalParameters =
        (resolveFunctionAbiEvidence providers parameterCount).hasOptionalParameters := by
  obtain ⟨-, hoptional, hstack, hregs⟩ := scanProviders_first providers
  have hscan : (scanProviders providers).conflicting = false := by
    simp only [resolveFunctionAbiEvidence, Bool.or_eq_false_iff] at hconflict
    exact hconflict.1.1
  obtain ⟨stack, hstack', -⟩ := firstReport_of_all stackCcReport hne
    (fun provider hmem => by simp [stackCcReport, (hcompiler provider hmem).stackCc])
    (disputed_iff_disagree.mpr fun l hl r hr => (hagree l hl r hr).convention.stackCc)
  obtain ⟨optional, hoptional', hall⟩ := firstReport_of_all optionalReport hne
    (fun provider hmem => by simp [optionalReport, (hcompiler provider hmem).optional])
    (disputed_iff_disagree.mpr fun l hl r hr => (hagree l hl r hr).convention.optional)
  obtain ⟨regs, hregs', -⟩ := firstReport_of_all maxRegsReport hne
    (fun provider hmem => by simp [maxRegsReport, (hcompiler provider hmem).maxRegs])
    (disputed_iff_disagree.mpr fun l hl r hr => (hagree l hl r hr).convention.maxRegs)
  simp only [resolveFunctionAbiEvidence, hstack, hoptional, hregs, hstack', hoptional', hregs',
    hscan, Option.isSome_some, Bool.not_false, Bool.and_self, Option.getD_some, true_and]
  intro provider hmem
  have hreport := hall provider hmem
  rw [optionalReport, if_pos (hcompiler provider hmem).optional] at hreport
  exact Option.some.inj hreport

/-- What compiler providers resolve to gives a layout exactly when they are complete evidence. -/
theorem layoutReady_iff (hcompiler : ∀ provider ∈ providers, CompilerProvider provider)
    (hne : providers ≠ []) :
    LayoutReady (resolveFunctionAbiEvidence providers parameterCount) closureCall ↔
      CompleteEvidence closureCall parameterCount providers := by
  have hplain : ∀ provider ∈ providers, provider.Plain := fun provider hmem =>
    (hcompiler provider hmem).plain
  have hagree_iff : (resolveFunctionAbiEvidence providers parameterCount).conflicting = false ↔
      ∀ left ∈ providers, ∀ right ∈ providers, Agrees parameterCount left right := by
    rw [← Bool.not_eq_true, resolveFunctionAbiEvidence_conflicting hplain]
    push Not
    exact Iff.rfl
  have hslots : ∀ slot ∈ (resolveFunctionAbiEvidence providers parameterCount).parameters,
      ∃ index < parameterCount, slot = resolveSlotEvidence
        (providers.filterMap fun provider => provider.parameters[index]?) := by
    intro slot hslot
    obtain ⟨index, hindex, rfl⟩ := mem_map.mp hslot
    exact ⟨index, mem_range.mp hindex, rfl⟩
  constructor
  · intro h
    have hagree := hagree_iff.mp h.conflicting
    obtain ⟨-, -, -, hoptional⟩ := resolved_convention hcompiler hne h.conflicting hagree
    refine ⟨hagree, fun index hindex => ?_, ((result_isProven_iff hplain).mp h.result).2, ?_⟩
    · exact ((parameter_isProven_iff hplain index).mp (h.parameters _
        (mem_map.mpr ⟨index, mem_range.mpr hindex, rfl⟩))).2
    · by_cases hcall : closureCall = true
      · exact Or.inl hcall
      · refine Or.inr fun provider hmem => ?_
        rw [hoptional provider hmem]
        exact Bool.eq_false_iff.mpr fun htrue => hcall (h.optional htrue)
  · intro h
    have hconflict := hagree_iff.mpr h.agree
    obtain ⟨hstack, hinfo, hregs, hoptional⟩ :=
      resolved_convention hcompiler hne hconflict h.agree
    have hresult : (resolveFunctionAbiEvidence providers parameterCount).result.isProven = true :=
      (result_isProven_iff hplain).mpr
        ⟨disputed_iff_disagree.mpr fun l hl r hr => (h.agree l hl r hr).result, h.result⟩
    have hparameter : ∀ index < parameterCount, (resolveSlotEvidence
        (providers.filterMap fun provider => provider.parameters[index]?)).isProven = true :=
      fun index hindex => (parameter_isProven_iff hplain index).mpr
        ⟨disputed_iff_disagree.mpr fun l hl r hr => (h.agree l hl r hr).parameters index hindex,
          h.parameters index hindex⟩
    refine ⟨hconflict, hresult, ?_, hstack, hinfo, hregs, ?_, ?_, ?_⟩
    · intro slot hslot
      obtain ⟨index, hindex, rfl⟩ := hslots slot hslot
      exact hparameter index hindex
    · intro htrue
      rcases h.optional with hcall | hnone
      · exact hcall
      · obtain ⟨provider, hmem⟩ := exists_mem_of_ne_nil providers hne
        rw [← hoptional provider hmem, hnone provider hmem] at htrue
        cases htrue
    · simp only [DartAbiResolvedSlot.isProven, Bool.and_eq_true, bne_iff_ne] at hresult
      revert hresult
      cases (resolveFunctionAbiEvidence providers parameterCount).result.representation <;>
        simp [isSupportedResultRepresentation, isSupportedParameterRepresentation]
    · intro slot hslot
      obtain ⟨index, hindex, rfl⟩ := hslots slot hslot
      have hproven := hparameter index hindex
      obtain ⟨item, hitem, hreport⟩ :=
        mem_map.mp ((parameter_resolved hplain index).mem hproven)
      obtain ⟨provider, hprovider, hget⟩ := mem_filterMap.mp hitem
      have hpair := (hcompiler provider hprovider).noPair item (mem_of_getElem? hget)
      have hunknown : item.report ≠ some .unknown := report_ne_unknown
      have hsame : item.report = some item.representation := by
        unfold DartAbiSlotEvidence.report at hreport ⊢
        split at hreport
        · cases hreport
        next hknown => rw [if_neg hknown]
      rw [hsame] at hreport hunknown
      rw [← Option.some.inj hreport]
      revert hpair hunknown
      cases item.representation <;> simp [isSupportedParameterRepresentation]

end Complete

/-! ## Submissions -/

/-- One call of the registration. -/
structure EvidenceCall where
  runtime : EvidenceRuntime
  method : DartPlantMethod
  evidence : DartPlantCompilerAbiEvidence

def EvidenceCall.prepared (call : EvidenceCall) : EvidenceResult PreparedEvidence :=
  prepareEvidence call.runtime call.method call.evidence

def registerAll (entries : List RuntimeAbiEvidenceEntry) (calls : List EvidenceCall) :
    List RuntimeAbiEvidenceEntry :=
  calls.foldl (fun entries call =>
    (registerCompilerAbiEvidence entries call.runtime call.method call.evidence).1) entries

/-- The submission of a call, when it is well formed and about the target. -/
def submission (target : EvidenceTarget) (call : EvidenceCall) : Option PreparedEvidence :=
  match call.prepared with
  | .ok prepared => if prepared.target = target then some prepared else none
  | .error _ => none

def submissions (target : EvidenceTarget) (calls : List EvidenceCall) : List PreparedEvidence :=
  calls.filterMap (submission target)

theorem bind_ok {α β : Type} {x : EvidenceResult α} {f : α → EvidenceResult β} {b : β}
    (h : (x >>= f) = .ok b) : ∃ a, x = .ok a ∧ f a = .ok b := by
  cases x with
  | error rejection => cases h
  | ok a => exact ⟨a, rfl, h⟩

theorem compilerSlot_plain (representation : DartAbiRepresentation) :
    (compilerSlot representation).proof ≠ .conflicting := by
  unfold compilerSlot
  dsimp only
  split
  · exact fun h => nomatch h
  · exact fun h => nomatch h

theorem toInternalRepresentation_parameter {representation : DartPlantAbiRepresentation}
    {internal : DartAbiRepresentation}
    (h : toInternalRepresentation representation false = some internal) :
    internal ≠ .pairOfTagged := by
  rintro rfl
  cases representation <;> cases h

theorem buildProvider_compiler {function : DartFunctionHandle} {layoutParameterCount : Nat}
    {evidence : DartPlantCompilerAbiEvidence} {provider : DartFunctionAbiEvidence}
    (h : buildProvider function layoutParameterCount evidence = .ok provider) :
    CompilerProvider provider := by
  unfold buildProvider at h
  split at h
  · cases h
  next parameters hparameters =>
    split at h
    · cases h
    next result hresult =>
      obtain rfl := Except.ok.inj h
      have hitem : ∀ item ∈ parameters.map compilerSlot ++ List.replicate
          (layoutParameterCount - evidence.parameterCount) (compilerSlot .tagged),
          ∃ representation, item = compilerSlot representation ∧
            representation ≠ .pairOfTagged := by
        intro item hmem
        rcases mem_append.mp hmem with hmem | hmem
        · obtain ⟨representation, hin, rfl⟩ := mem_map.mp hmem
          obtain ⟨index, -, hindex⟩ := FallibleLoop.exists_of_mem_mapM hparameters hin
          exact ⟨representation, rfl, toInternalRepresentation_parameter hindex⟩
        · exact ⟨.tagged, eq_of_mem_replicate hmem, fun h => nomatch h⟩
      refine ⟨⟨fun item hmem => ?_, compilerSlot_plain result⟩, fun item hmem => ?_, rfl, rfl, rfl⟩
      · obtain ⟨representation, rfl, -⟩ := hitem item hmem
        exact compilerSlot_plain representation
      · obtain ⟨representation, rfl, hpair⟩ := hitem item hmem
        exact hpair

/-- A submission that passed every check carries a compiler provider. -/
theorem prepareEvidence_compiler {runtime : EvidenceRuntime} {method : DartPlantMethod}
    {evidence : DartPlantCompilerAbiEvidence} {prepared : PreparedEvidence}
    (h : prepareEvidence runtime method evidence = .ok prepared) :
    CompilerProvider prepared.provider := by
  obtain ⟨-, -, h⟩ := bind_ok h
  obtain ⟨⟨function, target⟩, -, h⟩ := bind_ok h
  obtain ⟨⟨snapshot, module⟩, -, h⟩ := bind_ok h
  obtain ⟨-, -, h⟩ := bind_ok h
  obtain ⟨-, -, h⟩ := bind_ok h
  obtain ⟨-, -, h⟩ := bind_ok h
  obtain ⟨-, -, h⟩ := bind_ok h
  obtain ⟨semantics, -, h⟩ := bind_ok h
  obtain ⟨provider, hprovider, h⟩ := bind_ok h
  obtain rfl := Except.ok.inj h
  exact buildProvider_compiler hprovider

theorem submission_compiler {target : EvidenceTarget} {call : EvidenceCall}
    {prepared : PreparedEvidence} (h : submission target call = some prepared) :
    CompilerProvider prepared.provider := by
  unfold submission at h
  split at h
  next other hother =>
    split at h
    · obtain rfl := Option.some.inj h
      exact prepareEvidence_compiler hother
    · cases h
  · cases h

theorem submissions_compiler {target : EvidenceTarget} {calls : List EvidenceCall} :
    ∀ prepared ∈ submissions target calls, CompilerProvider prepared.provider := by
  intro prepared hmem
  obtain ⟨call, -, hcall⟩ := mem_filterMap.mp hmem
  exact submission_compiler hcall

theorem submissions_concat (target : EvidenceTarget) (calls : List EvidenceCall)
    (call : EvidenceCall) :
    submissions target (calls ++ [call]) =
      submissions target calls ++ (submission target call).toList := by
  rw [submissions, filterMap_append]
  cases hcall : submission target call with
  | none => simp only [submissions, filterMap_cons, hcall, filterMap_nil,
      Option.toList_none]
  | some prepared => simp only [submissions, filterMap_cons, hcall, filterMap_nil,
      Option.toList_some]

/-! ## What an entry remembers -/

/-- What a submission makes of the entry it is about. -/
def absorb (entry : Option RuntimeAbiEvidenceEntry) (prepared : PreparedEvidence) :
    Option RuntimeAbiEvidenceEntry :=
  match entry with
  | none => some (addProvider prepared
      { target := prepared.target, formalParameterCount := prepared.layoutParameterCount })
  | some existing =>
    some (if existing.formalParameterCount ≠ prepared.layoutParameterCount then
      contradictCount existing else addProvider prepared existing)

section Entries
variable {entries : List RuntimeAbiEvidenceEntry} {target : EvidenceTarget}

theorem findEntry_alter {update : RuntimeAbiEvidenceEntry → RuntimeAbiEvidenceEntry}
    (htarget : ∀ entry, (update entry).target = entry.target) (other : EvidenceTarget) :
    findEntry (alter RuntimeAbiEvidenceEntry.target update other entries) target =
      if other = target then (findEntry entries target).map update
      else findEntry entries target :=
  find_alter htarget other target entries

theorem findEntry_append (entry : RuntimeAbiEvidenceEntry) :
    findEntry (entries ++ [entry]) target =
      (findEntry entries target).or (if entry.target = target then some entry else none) := by
  rw [findEntry, List.find?_append, List.find?_cons, List.find?_nil]
  by_cases htarget : entry.target = target
  · rw [beq_iff_eq.mpr htarget, if_pos htarget]
    rfl
  · rw [beq_eq_false_iff_ne.mpr htarget, if_neg htarget]
    rfl

theorem addProvider_target (prepared : PreparedEvidence) (entry : RuntimeAbiEvidenceEntry) :
    (addProvider prepared entry).target = entry.target := rfl

theorem contradictCount_target (entry : RuntimeAbiEvidenceEntry) :
    (contradictCount entry).target = entry.target := rfl

/-- A registration changes the entry of its own target only. -/
theorem findEntry_registerProvider (prepared : PreparedEvidence) :
    findEntry (registerProvider entries prepared).1 target =
      if prepared.target = target then absorb (findEntry entries target) prepared
      else findEntry entries target := by
  unfold registerProvider
  cases hfind : findEntry entries prepared.target with
  | none =>
    dsimp only
    rw [findEntry_append, addProvider_target]
    dsimp only
    by_cases htarget : prepared.target = target
    · subst htarget
      rw [if_pos rfl, if_pos rfl, hfind]
      rfl
    · rw [if_neg htarget, if_neg htarget, Option.or_none]
  | some existing =>
    dsimp only
    by_cases hcount : existing.formalParameterCount ≠ prepared.layoutParameterCount
    · rw [if_pos hcount]
      dsimp only
      rw [findEntry_alter contradictCount_target]
      by_cases htarget : prepared.target = target
      · subst htarget
        rw [if_pos rfl, if_pos rfl, hfind, absorb, if_pos hcount]
        rfl
      · rw [if_neg htarget, if_neg htarget]
    · rw [if_neg hcount]
      dsimp only
      rw [findEntry_alter (addProvider_target prepared)]
      by_cases htarget : prepared.target = target
      · subst htarget
        rw [if_pos rfl, if_pos rfl, hfind, absorb, if_neg hcount]
        rfl
      · rw [if_neg htarget, if_neg htarget]

/-- An entry is what the well-formed submissions about its target made of it. -/
theorem findEntry_registerAll (calls : List EvidenceCall) :
    findEntry (registerAll entries calls) target =
      (submissions target calls).foldl absorb (findEntry entries target) := by
  induction calls using List.reverseRecOn with
  | nil => rfl
  | append_singleton calls call ih =>
    rw [registerAll, foldl_append, submissions_concat, foldl_append, ← ih]
    show findEntry (registerCompilerAbiEvidence (registerAll entries calls) call.runtime
      call.method call.evidence).1 target = _
    unfold registerCompilerAbiEvidence submission EvidenceCall.prepared
    cases prepareEvidence call.runtime call.method call.evidence with
    | error rejection => rfl
    | ok prepared =>
      dsimp only
      rw [findEntry_registerProvider]
      split
      · rfl
      · rfl

end Entries

/-- The formal count of the first submission. -/
def established (submissions : List PreparedEvidence) : Nat :=
  (submissions.head?.map PreparedEvidence.layoutParameterCount).getD 0

/-- The providers with the established count: only these are kept. -/
def keptProviders (submissions : List PreparedEvidence) : List DartFunctionAbiEvidence :=
  (submissions.filter fun prepared =>
    prepared.layoutParameterCount == established submissions).map PreparedEvidence.provider

/-- The layout after these submissions. -/
def currentLayout (submissions : List PreparedEvidence) : Option DartCallLayout :=
  submissions.getLast?.bind fun last =>
    if last.layoutParameterCount = established submissions then
      (solveLayout last (resolveFunctionAbiEvidence (keptProviders submissions)
        (established submissions))).2
    else none

/-- An entry after these submissions. -/
structure Remembers (entry : RuntimeAbiEvidenceEntry) (submissions : List PreparedEvidence) :
    Prop where
  formalParameterCount : entry.formalParameterCount = established submissions
  providers : entry.providers = keptProviders submissions
  callLayout : entry.callLayout = currentLayout submissions

theorem established_concat {before : List PreparedEvidence} (hne : before ≠ [])
    (last : PreparedEvidence) : established (before ++ [last]) = established before := by
  cases before with
  | nil => exact absurd rfl hne
  | cons first rest => rfl

theorem keptProviders_concat {before : List PreparedEvidence} (hne : before ≠ [])
    (last : PreparedEvidence) :
    keptProviders (before ++ [last]) = keptProviders before ++
      if last.layoutParameterCount = established before then [last.provider] else [] := by
  rw [keptProviders, established_concat hne, filter_append, map_append]
  by_cases hcount : last.layoutParameterCount = established before
  · rw [if_pos hcount, filter_cons, beq_iff_eq.mpr hcount]
    rfl
  · rw [if_neg hcount, filter_cons, beq_eq_false_iff_ne.mpr hcount]
    rfl

theorem currentLayout_concat (before : List PreparedEvidence) (last : PreparedEvidence) :
    currentLayout (before ++ [last]) =
      if last.layoutParameterCount = established (before ++ [last]) then
        (solveLayout last (resolveFunctionAbiEvidence (keptProviders (before ++ [last]))
          (established (before ++ [last])))).2
      else none := by
  rw [currentLayout, List.getLast?_append, List.getLast?_singleton]
  rfl

theorem addProvider_layout (prepared : PreparedEvidence) (entry : RuntimeAbiEvidenceEntry) :
    (addProvider prepared entry).callLayout =
      (solveLayout prepared (resolveFunctionAbiEvidence (entry.providers ++ [prepared.provider])
        entry.formalParameterCount)).2 := rfl

/-- The entry of a target remembers its submissions. -/
theorem absorb_remembers {submissions : List PreparedEvidence} (hne : submissions ≠ []) :
    ∃ entry, submissions.foldl absorb none = some entry ∧ Remembers entry submissions := by
  induction submissions using List.reverseRecOn with
  | nil => exact absurd rfl hne
  | append_singleton before last ih =>
    rw [foldl_append]
    by_cases hbefore : before = []
    · subst hbefore
      refine ⟨_, rfl, rfl, ?_, ?_⟩
      · simp only [keptProviders, established, nil_append, List.head?_cons, Option.map_some,
          Option.getD_some, filter_cons, beq_self_eq_true, if_true, filter_nil,
          map_cons, map_nil, addProvider]
      · rw [addProvider_layout, currentLayout_concat]
        simp only [keptProviders, established, nil_append, List.head?_cons, Option.map_some,
          Option.getD_some, filter_cons, beq_self_eq_true, if_true, filter_nil,
          map_cons, map_nil]
    · obtain ⟨entry, hentry, hremembers⟩ := ih hbefore
      rw [hentry]
      refine ⟨_, rfl, ?_⟩
      rw [hremembers.formalParameterCount]
      by_cases hcount : established before ≠ last.layoutParameterCount
      · have hother : ¬ last.layoutParameterCount = established before := fun h => hcount h.symm
        rw [if_pos hcount]
        refine ⟨?_, ?_, ?_⟩
        · rw [established_concat hbefore]
          exact hremembers.formalParameterCount
        · rw [keptProviders_concat hbefore, if_neg hother, append_nil]
          exact hremembers.providers
        · rw [currentLayout_concat, established_concat hbefore, if_neg hother]
          rfl
      · have hsame : last.layoutParameterCount = established before := (not_not.mp hcount).symm
        rw [if_neg hcount]
        refine ⟨?_, ?_, ?_⟩
        · rw [established_concat hbefore]
          exact hremembers.formalParameterCount
        · rw [keptProviders_concat hbefore, if_pos hsame, ← hremembers.providers]
          rfl
        · rw [currentLayout_concat, established_concat hbefore, if_pos hsame, addProvider_layout,
            keptProviders_concat hbefore, if_pos hsame, hremembers.providers,
            hremembers.formalParameterCount]

/-! ## Conflicts -/

/-- Two submissions disagree: on the formal count, on a slot, or on the calling convention. -/
def Contradicts (left right : PreparedEvidence) : Prop :=
  left.layoutParameterCount ≠ right.layoutParameterCount ∨
    ¬ Agrees left.layoutParameterCount left.provider right.provider

def Contested (submissions : List PreparedEvidence) : Prop :=
  ∃ left ∈ submissions, ∃ right ∈ submissions, Contradicts left right

/-- No method of this target gets a layout, in whatever state its entry target is. -/
def NoLayout (entries : List RuntimeAbiEvidenceEntry) (target : EvidenceTarget) : Prop :=
  ∀ (generation : BitVec 64) (method : DartPlantMethod) (function : DartFunctionHandle),
    method.function = some function → evidenceTarget method function generation = target →
      findRuntimeCallLayoutLocked entries generation method = none

/-- The submission and the kept providers determine a layout. -/
structure Verifies (prepared : PreparedEvidence) (providers : List DartFunctionAbiEvidence) :
    Prop where
  complete : CompleteEvidence prepared.closureCall prepared.layoutParameterCount providers
  signature : closureSignatureOf prepared ≠ none
  unique : prepared.provenUniqueIdentity = true

/-- The call submits evidence with the established count after a submission with another one, and
the kept providers, with its own, determine a layout. -/
def RestoresLayout (target : EvidenceTarget) (before : List EvidenceCall) (call : EvidenceCall) : Prop :=
  ∃ prepared, submission target call = some prepared ∧
    (∃ other ∈ submissions target before,
      other.layoutParameterCount ≠ established (submissions target before)) ∧
    prepared.layoutParameterCount = established (submissions target before) ∧
    Verifies prepared (keptProviders (submissions target before) ++ [prepared.provider])

/-- The layout of an entry is what its methods find. -/
theorem noLayout_iff {entries : List RuntimeAbiEvidenceEntry} {target : EvidenceTarget} :
    NoLayout entries target ↔
      (findEntry entries target).bind RuntimeAbiEvidenceEntry.callLayout = none := by
  constructor
  · intro h
    -- A method of this target whose entry has no other alias.
    let code : DartEntryTarget := ⟨target.codeTarget, 0, 0, .unique, [], false⟩
    let function : DartFunctionHandle :=
      ⟨target.identity, target.imageId, target.owner, .liveVm, 0, false, some code⟩
    let method : DartPlantMethod :=
      ⟨⟨"", "", "", "", .default⟩, ⟨"", "", "", 0, []⟩, some function, 0⟩
    exact h target.generation method function rfl rfl
  · intro h generation method function hfunction htarget
    unfold findRuntimeCallLayoutLocked
    rw [hfunction]
    dsimp only
    cases function.codeTarget with
    | none => rfl
    | some code =>
      dsimp only
      rw [htarget, h, ite_self]

/-- From no entry, what the methods of a target find is the layout of its submissions. -/
theorem noLayout_registerAll_iff {entries : List RuntimeAbiEvidenceEntry} {target : EvidenceTarget}
    (hnew : findEntry entries target = none) (calls : List EvidenceCall) :
    NoLayout (registerAll entries calls) target ↔
      currentLayout (submissions target calls) = none := by
  rw [noLayout_iff, findEntry_registerAll, hnew]
  by_cases hne : submissions target calls = []
  · rw [hne]
    exact ⟨fun _ => rfl, fun _ => rfl⟩
  · obtain ⟨entry, hentry, hremembers⟩ := absorb_remembers hne
    rw [hentry, Option.bind_some, hremembers.callLayout]

theorem solveLayout_isSome_iff {prepared : PreparedEvidence}
    {providers : List DartFunctionAbiEvidence} (hne : providers ≠ [])
    (hcompiler : ∀ provider ∈ providers, CompilerProvider provider) :
    (solveLayout prepared (resolveFunctionAbiEvidence providers
        prepared.layoutParameterCount)).2 ≠ none ↔ Verifies prepared providers := by
  have hready : (computeDartCallLayout
        (resolveFunctionAbiEvidence providers prepared.layoutParameterCount)
        arm64AotCallingConventionProfile prepared.closureCall).1 = .ok ↔
      CompleteEvidence prepared.closureCall prepared.layoutParameterCount providers := by
    rw [computeDartCallLayout_ok_iff (by decide), layoutReady_iff hcompiler hne]
  unfold solveLayout
  cases hcompute : computeDartCallLayout
      (resolveFunctionAbiEvidence providers prepared.layoutParameterCount)
      arm64AotCallingConventionProfile prepared.closureCall with
  | mk status layout =>
    rw [hcompute] at hready
    by_cases hok : status = .ok
    · subst hok
      have hcomplete := hready.mp rfl
      dsimp only
      cases hsignature : closureSignatureOf prepared with
      | none => exact ⟨fun h => absurd rfl h, fun h => absurd hsignature h.signature⟩
      | some signature =>
        cases hunique : prepared.provenUniqueIdentity with
        | false =>
          refine ⟨fun h => absurd rfl h, fun h => ?_⟩
          have := h.unique
          rw [hunique] at this
          cases this
        | true =>
          exact ⟨fun _ => ⟨hcomplete, by rw [hsignature]; exact Option.some_ne_none _, hunique⟩,
            fun _ => Option.some_ne_none _⟩
    · have hnot : ¬ CompleteEvidence prepared.closureCall prepared.layoutParameterCount
          providers := fun h => hok (hready.mpr h)
      cases status with
      | ok => exact absurd rfl hok
      | incompleteEvidence | conflictingEvidence | unsupportedRepresentation
      | optionalArgumentsUnsupported | invalidCallingConvention =>
        exact ⟨fun h => absurd rfl h, fun h => absurd h.complete hnot⟩

/-- There is a layout exactly when the last submission has the established count and the kept
providers determine one. -/
theorem currentLayout_concat_isSome_iff {before : List PreparedEvidence} {last : PreparedEvidence}
    (hcompiler : ∀ prepared ∈ before ++ [last], CompilerProvider prepared.provider) :
    currentLayout (before ++ [last]) ≠ none ↔
      last.layoutParameterCount = established (before ++ [last]) ∧
        Verifies last (keptProviders (before ++ [last])) := by
  rw [currentLayout_concat]
  by_cases hcount : last.layoutParameterCount = established (before ++ [last])
  · have hkept : ∀ provider ∈ keptProviders (before ++ [last]), CompilerProvider provider := by
      intro provider hmem
      obtain ⟨prepared, hprepared, rfl⟩ := mem_map.mp hmem
      exact hcompiler prepared (mem_of_mem_filter hprepared)
    have hne : keptProviders (before ++ [last]) ≠ [] :=
      ne_nil_of_mem (mem_map.mpr ⟨last, mem_filter.mpr
        ⟨mem_append_right _ (mem_singleton_self _), beq_iff_eq.mpr hcount⟩, rfl⟩)
    rw [if_pos hcount, ← hcount, solveLayout_isSome_iff hne hkept]
    exact ⟨fun h => ⟨rfl, h⟩, fun h => h.2⟩
  · rw [if_neg hcount]
    exact ⟨fun h => absurd rfl h, fun h => absurd h.1 hcount⟩

/-- When all submissions have the established count and the kept providers agree, nothing is
contested. -/
theorem exists_other_count {submissions : List PreparedEvidence} (hcontested : Contested submissions)
    (hagree : ∀ left ∈ keptProviders submissions, ∀ right ∈ keptProviders submissions,
      Agrees (established submissions) left right) :
    ∃ other ∈ submissions, other.layoutParameterCount ≠ established submissions := by
  by_contra hnone
  push Not at hnone
  have hkept : ∀ prepared ∈ submissions, prepared.provider ∈ keptProviders submissions :=
    fun prepared hmem => mem_map.mpr ⟨prepared, mem_filter.mpr
      ⟨hmem, beq_iff_eq.mpr (hnone prepared hmem)⟩, rfl⟩
  obtain ⟨left, hleft, right, hright, hcount | hdiffer⟩ := hcontested
  · exact hcount ((hnone left hleft).trans (hnone right hright).symm)
  · rw [hnone left hleft] at hdiffer
    exact hdiffer (hagree _ (hkept left hleft) _ (hkept right hright))

/-- Once submissions have disagreed there is never a layout again, exactly when no later submission
has the established count after one with another count and completes the kept providers. -/
theorem conflict_sticky_iff {entries : List RuntimeAbiEvidenceEntry} {target : EvidenceTarget}
    (hnew : findEntry entries target = none) (calls : List EvidenceCall) :
    (∀ before, before <+: calls → Contested (submissions target before) →
        NoLayout (registerAll entries before) target) ↔
      ∀ before call, before ++ [call] <+: calls → ¬ RestoresLayout target before call := by
  constructor
  · rintro h before call hprefix ⟨prepared, hsubmission, ⟨other, hother, hne⟩, hcount, hverifies⟩
    have hsubs : submissions target (before ++ [call]) =
        submissions target before ++ [prepared] := by
      rw [submissions_concat, hsubmission, Option.toList_some]
    have hbefore : submissions target before ≠ [] := ne_nil_of_mem hother
    have hcontested : Contested (submissions target (before ++ [call])) := by
      rw [hsubs]
      exact ⟨other, mem_append_left _ hother, prepared,
        mem_append_right _ (mem_singleton_self _), Or.inl (by rwa [hcount])⟩
    have hnone := (noLayout_registerAll_iff hnew _).mp (h _ hprefix hcontested)
    rw [hsubs] at hnone
    refine (currentLayout_concat_isSome_iff ?_).mpr ⟨?_, ?_⟩ hnone
    · rw [← hsubs]
      exact submissions_compiler
    · rw [established_concat hbefore, hcount]
    · rw [keptProviders_concat hbefore, if_pos hcount]
      exact hverifies
  · intro h before
    induction before using List.reverseRecOn with
    | nil =>
      rintro - ⟨left, hleft, -⟩
      cases hleft
    | append_singleton before call ih =>
      intro hprefix hcontested
      rw [noLayout_registerAll_iff hnew]
      cases hsubmission : submission target call with
      | none =>
        have hsubs : submissions target (before ++ [call]) = submissions target before := by
          rw [submissions_concat, hsubmission, Option.toList_none, append_nil]
        rw [hsubs] at hcontested ⊢
        exact (noLayout_registerAll_iff hnew _).mp
          (ih ((prefix_append before [call]).trans hprefix) hcontested)
      | some prepared =>
        have hsubs : submissions target (before ++ [call]) =
            submissions target before ++ [prepared] := by
          rw [submissions_concat, hsubmission, Option.toList_some]
        have hcompiler : ∀ other ∈ submissions target before ++ [prepared],
            CompilerProvider other.provider := by
          rw [← hsubs]
          exact submissions_compiler
        rw [hsubs] at hcontested ⊢
        by_contra hsome
        obtain ⟨hcount, hverifies⟩ := (currentLayout_concat_isSome_iff hcompiler).mp hsome
        have hagree := hverifies.complete.agree
        rw [hcount] at hagree
        obtain ⟨other, hother, hne⟩ := exists_other_count hcontested hagree
        -- The last submission has the established count, so the other one came before it.
        rcases mem_append.mp hother with hother | hother
        · have hbefore : submissions target before ≠ [] := ne_nil_of_mem hother
          rw [established_concat hbefore] at hcount hne
          rw [keptProviders_concat hbefore, if_pos hcount] at hverifies
          exact h before call hprefix ⟨prepared, hsubmission, ⟨other, hother, hne⟩, hcount,
            hverifies⟩
        · rw [mem_singleton.mp hother] at hne
          exact hne hcount

/-! ## A contradicted count -/

/-- A ready runtime with one live method, whose entry is at 0x1000. -/
def plainRuntime : EvidenceRuntime where
  operationAcquired := true
  state := .ready
  generation := 1
  imageSet := {}
  snapshot := some ⟨"", "", "", "hash", "", "", 0, 0, 0, false, none⟩
  appModule := some ⟨"", "", "id", 0, []⟩
  liveSnapshotIndex := none
  profiles := []
  fingerprint := fun _ _ => "code"

def plainFunction : DartFunctionHandle where
  identity := ⟨"", "", "main", "", .default⟩
  imageId := 1
  owner := ⟨1, 1, 1, 1, 1⟩
  source := .liveVm
  runtimeProfileVersion := 0
  closureCallEntryOnly := false
  codeTarget := some ⟨0x1000, 16, 1, .unique, [], false⟩

def plainMethod : DartPlantMethod :=
  ⟨⟨"", "", "main", "", .default⟩, ⟨"", "", "id", 0, []⟩, some plainFunction, 1⟩

def plainTarget : EvidenceTarget := evidenceTarget plainMethod plainFunction 1

/-- Evidence of the first version with so many boxed formals. -/
def plainEvidence (parameterCount : Nat) : DartPlantCompilerAbiEvidence where
  structSize := kCompilerAbiEvidenceV1Size
  snapshotHash := some "hash"
  appBuildId := some "id"
  codeFingerprint := some "code"
  parameterRepresentations := some fun _ => .tagged
  parameterCount := parameterCount
  resultRepresentation := .tagged
  maxParametersInRegisters := parameterCount
  mustUseStackCallingConvention := 0
  hasOptionalParameters := 0
  hasOverridesWithLessDirectParameters := 0

def plainCall (parameterCount : Nat) : EvidenceCall :=
  ⟨plainRuntime, plainMethod, plainEvidence parameterCount⟩

/-- One formal, two formals, and one again: the third registration gives the method a layout. -/
theorem contradicted_count_restored :
    ¬ ∀ before, before <+: [plainCall 1, plainCall 2, plainCall 1] →
      Contested (submissions plainTarget before) →
        NoLayout (registerAll [] before) plainTarget := by
  intro h
  have hcontested : Contested (submissions plainTarget
      [plainCall 1, plainCall 2, plainCall 1]) := by
    have hone : ∃ prepared ∈ submissions plainTarget [plainCall 1, plainCall 2, plainCall 1],
        prepared.layoutParameterCount = 1 := by decide +kernel
    have htwo : ∃ prepared ∈ submissions plainTarget [plainCall 1, plainCall 2, plainCall 1],
        prepared.layoutParameterCount = 2 := by decide +kernel
    obtain ⟨left, hleft, hone⟩ := hone
    obtain ⟨right, hright, htwo⟩ := htwo
    refine ⟨left, hleft, right, hright, Or.inl ?_⟩
    rw [hone, htwo]
    omega
  have hnone := h _ (prefix_refl _) hcontested 1 plainMethod plainFunction rfl rfl
  revert hnone
  decide +kernel

/-- One formal and then twice two: the entry stays without a layout. -/
theorem contradicted_count_sticky :
    Contested (submissions plainTarget [plainCall 1, plainCall 2, plainCall 2]) ∧
      NoLayout (registerAll [] [plainCall 1, plainCall 2, plainCall 2]) plainTarget := by
  have hcontested : Contested (submissions plainTarget
      [plainCall 1, plainCall 2, plainCall 2]) := by
    have hone : ∃ prepared ∈ submissions plainTarget [plainCall 1, plainCall 2, plainCall 2],
        prepared.layoutParameterCount = 1 := by decide +kernel
    have htwo : ∃ prepared ∈ submissions plainTarget [plainCall 1, plainCall 2, plainCall 2],
        prepared.layoutParameterCount = 2 := by decide +kernel
    obtain ⟨left, hleft, hone⟩ := hone
    obtain ⟨right, hright, htwo⟩ := htwo
    refine ⟨left, hleft, right, hright, Or.inl ?_⟩
    rw [hone, htwo]
    omega
  refine ⟨hcontested, (conflict_sticky_iff rfl _).mpr ?_ _ prefix_rfl hcontested⟩
  rintro before call hprefix ⟨prepared, hsubmission, ⟨other, hother, hne⟩, hcount, -⟩
  rcases before with _ | ⟨first, _ | ⟨second, _ | ⟨third, rest⟩⟩⟩
  · cases hother
  · obtain ⟨rfl, -⟩ := cons_prefix_cons.mp hprefix
    revert other
    decide +kernel
  · obtain ⟨rfl, htail⟩ := cons_prefix_cons.mp hprefix
    obtain ⟨rfl, hlast⟩ := cons_prefix_cons.mp htail
    obtain ⟨rfl, -⟩ := cons_prefix_cons.mp hlast
    have htwo : ∀ prepared ∈ submission plainTarget (plainCall 2),
        prepared.layoutParameterCount ≠
          established (submissions plainTarget [plainCall 1, plainCall 2]) := by decide +kernel
    exact htwo prepared hsubmission hcount
  · have hlength := hprefix.length_le
    simp only [cons_append, length_cons, length_append, length_nil] at hlength
    omega

end DartPlant
