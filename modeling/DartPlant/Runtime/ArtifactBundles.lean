import DartPlant.Lib.FallibleLoop
import DartPlant.Lib.KeyedMerge
import DartPlant.Runtime.RuntimeImage
import Mathlib.Data.Finset.Card

/-! # Embedded artifact bundles

Bundles are registered one by one, each once, and the ones that match the live app are merged into
one index before it is bound.  A record is known by its texts and its entry kind, written one per
line, and the first record of a key stands for the others.
-/

namespace DartPlant
open FallibleLoop KeyedMerge List

/-! ## Bundles -/

/-- `DartPlantSnapshotFunctionInfo`, as a registered bundle owns it.  A text is none for the null
pointer. -/
structure SnapshotFunctionInfo where
  libraryUri : Option String
  className : Option String
  functionName : Option String
  signature : Option String
  entryKind : BitVec 32
  entryVa : BitVec 64
  codeSize : BitVec 64
  codeSectionVa : BitVec 64
  fingerprint : Option String
  codeIdentityProof : BitVec 32
  physicalEntryAliasCount : BitVec 32
  functionKind : BitVec 32
  closureCallEntryOnly : BitVec 8
  codePayloadVa : BitVec 64
  codeInstructionsLength : BitVec 64
  deriving DecidableEq, Repr

open SnapshotFunctionInfo

open SnapshotFunctionInfo

/-- `DartPlantSnapshotIndexInfo`. -/
structure SnapshotIndexInfo where
  moduleName : Option String
  moduleBuildId : Option String
  snapshotHash : Option String
  dartVersion : Option String
  profileVersion : Option String
  functions : List SnapshotFunctionInfo
  deriving DecidableEq, Repr

/-- `DartPlantCompilerAbiEvidence`, as a registered bundle owns it. -/
structure OwnedCompilerEvidence where
  snapshotHash : Option String
  appBuildId : Option String
  codeFingerprint : Option String
  parameterRepresentations : List (BitVec 32)
  resultRepresentation : BitVec 32
  maxParametersInRegisters : BitVec 32
  mustUseStackCallingConvention : BitVec 8
  hasOptionalParameters : BitVec 8
  hasOverridesWithLessDirectParameters : BitVec 8
  libraryUri : Option String
  className : Option String
  functionName : Option String
  entryKind : BitVec 32
  entryVa : BitVec 64
  codeSize : BitVec 64
  structuralSchemaVersion : BitVec 32
  structuralDecodedInstructions : BitVec 32
  structuralBasicBlockCount : BitVec 32
  structuralRelationCount : BitVec 32
  structuralVerified : BitVec 8
  structuralHasUnknownControlFlow : BitVec 8
  structuralUsesArgumentsDescriptor : BitVec 8
  structuralReachedReturn : BitVec 8
  deriving DecidableEq, Repr

/-- `OwnedArtifactBundle`, whose version is the one that was checked. -/
structure ArtifactBundle where
  snapshotIndex : Option SnapshotIndexInfo
  compilerAbiEvidence : List OwnedCompilerEvidence
  deriving DecidableEq, Repr

/-! ## Registration -/

/-- `SameSnapshotFunction`. -/
def sameSnapshotFunction (left right : SnapshotFunctionInfo) : Bool :=
  left.libraryUri == right.libraryUri && left.className == right.className &&
    left.functionName == right.functionName && left.signature == right.signature &&
    left.entryKind == right.entryKind && left.entryVa == right.entryVa &&
    left.codeSize == right.codeSize && left.codeSectionVa == right.codeSectionVa &&
    left.fingerprint == right.fingerprint &&
    left.codeIdentityProof == right.codeIdentityProof &&
    left.physicalEntryAliasCount == right.physicalEntryAliasCount &&
    left.functionKind == right.functionKind &&
    left.closureCallEntryOnly == right.closureCallEntryOnly

/-- `SameSnapshotIndex`. -/
def sameSnapshotIndex : Option SnapshotIndexInfo → Option SnapshotIndexInfo → Bool
  | none, none => true
  | some left, some right =>
    left.moduleName == right.moduleName && left.moduleBuildId == right.moduleBuildId &&
      left.snapshotHash == right.snapshotHash && left.dartVersion == right.dartVersion &&
      left.profileVersion == right.profileVersion &&
      left.functions.length == right.functions.length &&
      (left.functions.zip right.functions).all fun pair => sameSnapshotFunction pair.1 pair.2
  | _, _ => false

/-- `SameCompilerEvidence`. -/
def sameCompilerEvidence (left right : OwnedCompilerEvidence) : Bool :=
  left.snapshotHash == right.snapshotHash && left.appBuildId == right.appBuildId &&
    left.codeFingerprint == right.codeFingerprint &&
    left.resultRepresentation == right.resultRepresentation &&
    left.maxParametersInRegisters == right.maxParametersInRegisters &&
    left.mustUseStackCallingConvention == right.mustUseStackCallingConvention &&
    left.hasOptionalParameters == right.hasOptionalParameters &&
    left.hasOverridesWithLessDirectParameters == right.hasOverridesWithLessDirectParameters &&
    left.libraryUri == right.libraryUri && left.className == right.className &&
    left.functionName == right.functionName && left.entryKind == right.entryKind &&
    left.entryVa == right.entryVa && left.codeSize == right.codeSize &&
    left.structuralSchemaVersion == right.structuralSchemaVersion &&
    left.structuralDecodedInstructions == right.structuralDecodedInstructions &&
    left.structuralBasicBlockCount == right.structuralBasicBlockCount &&
    left.structuralRelationCount == right.structuralRelationCount &&
    left.structuralVerified == right.structuralVerified &&
    left.structuralHasUnknownControlFlow == right.structuralHasUnknownControlFlow &&
    left.structuralUsesArgumentsDescriptor == right.structuralUsesArgumentsDescriptor &&
    left.structuralReachedReturn == right.structuralReachedReturn &&
    left.parameterRepresentations == right.parameterRepresentations

/-- `SameArtifactBundle`. -/
def sameArtifactBundle (left right : ArtifactBundle) : Bool :=
  sameSnapshotIndex left.snapshotIndex right.snapshotIndex &&
    left.compilerAbiEvidence.length == right.compilerAbiEvidence.length &&
    (left.compilerAbiEvidence.zip right.compilerAbiEvidence).all fun pair =>
      sameCompilerEvidence pair.1 pair.2

/-- `ArtifactRegistryState`. -/
structure ArtifactRegistry where
  generation : BitVec 64 := 0
  snapshotGeneration : BitVec 64 := 0
  bundles : List ArtifactBundle := []
  deriving DecidableEq, Repr

/-- `dartplant_register_embedded_artifact_bundle`, for a valid bundle. -/
def registerArtifactBundle (registry : ArtifactRegistry) (bundle : ArtifactBundle) :
    ArtifactRegistry :=
  if registry.bundles.any fun existing => sameArtifactBundle existing bundle then registry
  else
    { generation := registry.generation + 1
      snapshotGeneration := registry.snapshotGeneration +
        if bundle.snapshotIndex.isSome then 1 else 0
      bundles := registry.bundles ++ [bundle] }

/-- The registry after the bundles have been registered in this order. -/
def registerBundles (bundles : List ArtifactBundle) : ArtifactRegistry :=
  bundles.foldl registerArtifactBundle {}

/-! ## Merging -/

/-- The state of the isolate group that decides whether and with what an index is bound. -/
structure ArtifactGroup where
  boundArtifactSnapshotGeneration : BitVec 64
  profileMatched : Bool
  appModule : Option ModuleImage
  snapshot : Option FlutterSnapshotSource
  deriving DecidableEq, Repr

/-- The live app that an index must match. -/
structure LiveApp where
  moduleName : String
  moduleBuildId : String
  snapshotHash : String
  deriving DecidableEq, Repr

/-- The index is for the live app. -/
def SnapshotIndexInfo.isFor (source : SnapshotIndexInfo) (app : LiveApp) : Bool :=
  source.moduleName.getD "" == app.moduleName && source.moduleBuildId.getD "" != "" &&
    equalsIgnoreCaseAscii app.moduleBuildId (source.moduleBuildId.getD "") &&
    source.snapshotHash.getD "" == app.snapshotHash

/-- The text under which a record is looked up. -/
def SnapshotFunctionInfo.key (function : SnapshotFunctionInfo) : String :=
  function.libraryUri.getD "" ++ "\n" ++ function.className.getD "" ++ "\n" ++
    function.functionName.getD "" ++ "\n" ++ function.signature.getD "" ++ "\n" ++
    toString function.entryKind.toNat

/-- What two records of one key must agree on. -/
structure ComparedFacts where
  entryVa : BitVec 64
  codeSize : BitVec 64
  codeSectionVa : BitVec 64
  fingerprint : String
  codeIdentityProof : BitVec 32
  physicalEntryAliasCount : BitVec 32
  functionKind : BitVec 32
  closureCallEntryOnly : BitVec 8
  deriving DecidableEq, Repr

def SnapshotFunctionInfo.compared (function : SnapshotFunctionInfo) : ComparedFacts :=
  { entryVa := function.entryVa
    codeSize := function.codeSize
    codeSectionVa := function.codeSectionVa
    fingerprint := function.fingerprint.getD ""
    codeIdentityProof := function.codeIdentityProof
    physicalEntryAliasCount := function.physicalEntryAliasCount
    functionKind := function.functionKind
    closureCallEntryOnly := function.closureCallEntryOnly }

/-- One turn of the inner loop. -/
def mergeFunction (functions : List SnapshotFunctionInfo) (function : SnapshotFunctionInfo) :
    Result (List SnapshotFunctionInfo) :=
  if function.libraryUri = none ∨ function.functionName = none then
    .error ⟨.metadataInvalid, "matching embedded artifact contains an invalid Function record"⟩
  else
    match functions.find? fun current => current.key == function.key with
    | none => .ok (functions ++ [function])
    | some current =>
      if current.compared ≠ function.compared then
        .error ⟨.metadataInvalid,
          "embedded artifact bundles disagree about one logical Function identity"⟩
      else .ok functions

/-- The first matching index, and the records so far. -/
structure MergedArtifacts where
  first : Option SnapshotIndexInfo := none
  functions : List SnapshotFunctionInfo := []
  deriving DecidableEq, Repr

/-- The versions of the snapshot that the matching indexes must agree on. -/
def SnapshotIndexInfo.versions (source : SnapshotIndexInfo) : Option String × Option String :=
  (source.dartVersion, source.profileVersion)

/-- One turn of the outer loop, for an index of the live app. -/
def mergeSource (merged : MergedArtifacts) (source : SnapshotIndexInfo) :
    Result MergedArtifacts :=
  if source.functions = [] then
    .error ⟨.metadataInvalid, "matching embedded artifact index has no Function records"⟩
  else if merged.first.any fun first => first.versions != source.versions then
    .error ⟨.metadataInvalid,
      "matching embedded artifact bundles disagree about snapshot profile identity"⟩
  else do
    let functions ← source.functions.foldlM mergeFunction merged.functions
    return { first := some (merged.first.getD source), functions := functions }

/-- One turn of the outer loop. -/
def mergeBundle (app : LiveApp) (merged : MergedArtifacts) (bundle : ArtifactBundle) :
    Result MergedArtifacts :=
  match bundle.snapshotIndex with
  | none => .ok merged
  | some source => if source.isFor app then mergeSource merged source else .ok merged

/-- The app whose index is to be bound now, if there is one. -/
def appToBind (group : ArtifactGroup) (registry : ArtifactRegistry) : Option LiveApp :=
  if registry.bundles = [] ∨ registry.snapshotGeneration = 0 ∨
      group.boundArtifactSnapshotGeneration = registry.snapshotGeneration ∨
      group.profileMatched = false then none
  else
    match group.appModule, group.snapshot with
    | some module, some snapshot =>
      some { moduleName := module.name, moduleBuildId := module.buildId,
             snapshotHash := snapshot.snapshotHash }
    | _, _ => none

/-- `BindArtifactIndexIfReady`, up to the index that it hands on. -/
def bindArtifactIndexIfReady (group : ArtifactGroup) (registry : ArtifactRegistry) :
    Result (Option SnapshotIndexInfo) :=
  match appToBind group registry with
  | none => .ok none
  | some app => do
    let merged ← registry.bundles.foldlM (mergeBundle app) {}
    return merged.first.map fun first => { first with functions := merged.functions }

/-! ## Bundles that are registered once -/

/-- What `SameSnapshotFunction` looks at. -/
def SnapshotFunctionInfo.withoutPayload (function : SnapshotFunctionInfo) : SnapshotFunctionInfo :=
  { function with codePayloadVa := 0, codeInstructionsLength := 0 }

theorem sameSnapshotFunction_iff {left right : SnapshotFunctionInfo} :
    sameSnapshotFunction left right = true ↔ left.withoutPayload = right.withoutPayload := by
  simp [sameSnapshotFunction, withoutPayload, and_assoc]

/-- The records agree one by one. -/
theorem all_zip_iff {α β : Type} {same : α → α → Bool} {shape : α → β}
    (h : ∀ left right, same left right = true ↔ shape left = shape right) (xs ys : List α) :
    (xs.length == ys.length && (xs.zip ys).all fun pair => same pair.1 pair.2) = true ↔
      xs.map shape = ys.map shape := by
  induction xs generalizing ys with
  | nil => cases ys <;> simp
  | cons x xs ih =>
    cases ys with
    | nil => simp
    | cons y ys =>
      rw [map_cons, map_cons, List.cons.injEq, ← ih ys, ← h x y]
      simp only [length_cons, zip_cons_cons, all_cons, Bool.and_eq_true, beq_iff_eq,
        Nat.add_right_cancel_iff]
      tauto

theorem sameCompilerEvidence_iff {left right : OwnedCompilerEvidence} :
    sameCompilerEvidence left right = true ↔ left = right := by
  obtain ⟨⟩ := left
  obtain ⟨⟩ := right
  simp only [sameCompilerEvidence, Bool.and_eq_true, beq_iff_eq, OwnedCompilerEvidence.mk.injEq]
  tauto

def SnapshotIndexInfo.withoutPayloads (source : SnapshotIndexInfo) : SnapshotIndexInfo :=
  { source with functions := source.functions.map withoutPayload }

theorem sameSnapshotIndex_iff {left right : Option SnapshotIndexInfo} :
    sameSnapshotIndex left right = true ↔
      left.map SnapshotIndexInfo.withoutPayloads = right.map SnapshotIndexInfo.withoutPayloads := by
  cases left with
  | none => cases right <;> simp [sameSnapshotIndex]
  | some left =>
    cases right with
    | none => simp [sameSnapshotIndex]
    | some right =>
      have hfunctions := all_zip_iff @sameSnapshotFunction_iff left.functions right.functions
      rw [Bool.and_eq_true, beq_iff_eq] at hfunctions
      simp only [sameSnapshotIndex, Bool.and_eq_true, and_assoc, hfunctions, Option.map_some,
        Option.some.injEq, SnapshotIndexInfo.withoutPayloads, SnapshotIndexInfo.mk.injEq,
        beq_iff_eq]

/-- What `SameArtifactBundle` looks at. -/
def ArtifactBundle.withoutPayloads (bundle : ArtifactBundle) : ArtifactBundle :=
  { bundle with snapshotIndex := bundle.snapshotIndex.map SnapshotIndexInfo.withoutPayloads }

theorem sameArtifactBundle_iff {left right : ArtifactBundle} :
    sameArtifactBundle left right = true ↔ left.withoutPayloads = right.withoutPayloads := by
  have hsame : ∀ first second, sameCompilerEvidence first second = true ↔ id first = id second :=
    fun _ _ => sameCompilerEvidence_iff
  have hevidence := all_zip_iff hsame left.compilerAbiEvidence right.compilerAbiEvidence
  rw [Bool.and_eq_true, map_id, map_id] at hevidence
  simp only [sameArtifactBundle, Bool.and_eq_true, and_assoc, hevidence, sameSnapshotIndex_iff,
    ArtifactBundle.withoutPayloads, ArtifactBundle.mk.injEq]

section Registration
variable {bundles : List ArtifactBundle}

theorem registerBundles_concat (bundles : List ArtifactBundle) (bundle : ArtifactBundle) :
    registerBundles (bundles ++ [bundle]) =
      registerArtifactBundle (registerBundles bundles) bundle :=
  foldl_append

/-- Of the bundles that are alike the first one is registered. -/
theorem registerBundles_kept (bundles : List ArtifactBundle) :
    merge ArtifactBundle.withoutPayloads (fun _ => ()) bundles =
      some (registerBundles bundles).bundles := by
  induction bundles using List.reverseRecOn with
  | nil => rfl
  | append_singleton bundles bundle ih =>
    rw [merge_concat, ih, registerBundles_concat, Option.bind_some]
    unfold registerArtifactBundle
    split
    next hany =>
      obtain ⟨existing, hexisting, hsame⟩ := any_eq_true.mp hany
      rw [sameArtifactBundle_iff] at hsame
      unfold keepRow
      split
      next hnone =>
        exact absurd (beq_iff_eq.mpr hsame) (List.find?_eq_none.mp hnone existing hexisting)
      · rfl
    next hany =>
      refine keepRow_new fun existing hexisting hsame => hany ?_
      exact any_eq_true.mpr ⟨existing, hexisting, sameArtifactBundle_iff.mpr hsame⟩

theorem registerBundles_spec (bundles : List ArtifactBundle) :
    KeyedMerge.Kept ArtifactBundle.withoutPayloads (fun _ => ()) bundles
      (registerBundles bundles).bundles :=
  kept_of_merge (registerBundles_kept bundles)

/-- The generation counts the registered bundles that have an index. -/
theorem registerBundles_snapshotGeneration (bundles : List ArtifactBundle) :
    (registerBundles bundles).snapshotGeneration = BitVec.ofNat 64
      ((registerBundles bundles).bundles.countP fun bundle => bundle.snapshotIndex.isSome) := by
  induction bundles using List.reverseRecOn with
  | nil => rfl
  | append_singleton bundles bundle ih =>
    rw [registerBundles_concat]
    unfold registerArtifactBundle
    split
    · exact ih
    · dsimp only
      rw [countP_append, countP_singleton, ih, BitVec.ofNat_add]
      split <;> rfl

theorem withoutPayloads_isSome (bundle : ArtifactBundle) :
    bundle.withoutPayloads.snapshotIndex.isSome = bundle.snapshotIndex.isSome :=
  Option.isSome_map

/-- What decides whether an index is bound does not depend on the order of registration. -/
theorem appToBind_perm {others : List ArtifactBundle} (hperm : bundles.Perm others)
    (group : ArtifactGroup) :
    appToBind group (registerBundles bundles) = appToBind group (registerBundles others) := by
  have hkeys := (registerBundles_spec bundles).perm_keys (registerBundles_spec others) hperm
  have hempty : (registerBundles bundles).bundles = [] ↔ (registerBundles others).bundles = [] := by
    rw [← length_eq_zero_iff, ← length_eq_zero_iff,
      ← length_map (f := ArtifactBundle.withoutPayloads), hkeys.length_eq, length_map]
  have hcount (registered : List ArtifactBundle) :
      registered.countP (fun bundle => bundle.snapshotIndex.isSome) =
        (registered.map ArtifactBundle.withoutPayloads).countP
          fun bundle => bundle.snapshotIndex.isSome := by
    rw [countP_map]
    exact congrArg (List.countP · registered) (funext fun bundle =>
      (withoutPayloads_isSome bundle).symm)
  have hgeneration : (registerBundles bundles).snapshotGeneration =
      (registerBundles others).snapshotGeneration := by
    rw [registerBundles_snapshotGeneration, registerBundles_snapshotGeneration,
      hcount (registerBundles bundles).bundles, hcount (registerBundles others).bundles,
      hkeys.countP_eq]
  unfold appToBind
  simp only [hempty, hgeneration]

end Registration

/-! ## When indexes merge -/

/-- The record has the texts that every record needs. -/
def SnapshotFunctionInfo.Valid (function : SnapshotFunctionInfo) : Prop :=
  function.libraryUri ≠ none ∧ function.functionName ≠ none

theorem mergeFunction_eq_ok {kept next : List SnapshotFunctionInfo}
    {function : SnapshotFunctionInfo} :
    mergeFunction kept function = .ok next ↔ function.Valid ∧
      keepRow key compared kept function =
        some next := by
  unfold mergeFunction keepRow Valid
  split
  next hinvalid =>
    exact ⟨nofun, fun h => absurd h.1 (not_and_or.mpr (hinvalid.imp not_not.mpr not_not.mpr))⟩
  next hvalid =>
    have hvalid := not_or.mp hvalid
    cases kept.find? fun current => current.key == function.key with
    | none =>
      exact ⟨fun h => ⟨hvalid, congrArg some (Except.ok.inj h)⟩,
        fun h => congrArg Except.ok (Option.some.inj h.2)⟩
    | some current =>
      dsimp only
      split
      next hdiffer =>
        exact ⟨nofun, fun h => absurd h.2 nofun⟩
      next hsame =>
        rw [if_pos (not_not.mp hsame)]
        exact ⟨fun h => ⟨hvalid, congrArg some (Except.ok.inj h)⟩,
          fun h => congrArg Except.ok (Option.some.inj h.2)⟩

/-- The inner loop. -/
theorem foldlM_mergeFunction {kept next functions : List SnapshotFunctionInfo} :
    functions.foldlM mergeFunction kept = .ok next ↔ (∀ function ∈ functions, function.Valid) ∧
      mergeFrom key compared kept functions =
        some next := by
  induction functions generalizing kept with
  | nil =>
    constructor
    · intro h
      exact ⟨nofun, congrArg some (Except.ok.inj h)⟩
    · rintro ⟨-, h⟩
      exact congrArg Except.ok (Option.some.inj h)
  | cons function functions ih =>
    rw [foldlM_cons, mergeFrom_cons, Option.bind_eq_some_iff, forall_mem_cons]
    constructor
    · intro h
      obtain ⟨between, hfirst, hrest⟩ := of_bind_ok h
      obtain ⟨hvalid, hkeep⟩ := mergeFunction_eq_ok.mp hfirst
      obtain ⟨hothers, hmerge⟩ := ih.mp hrest
      exact ⟨⟨hvalid, hothers⟩, between, hkeep, hmerge⟩
    · rintro ⟨⟨hvalid, hothers⟩, between, hkeep, hmerge⟩
      rw [mergeFunction_eq_ok.mpr ⟨hvalid, hkeep⟩]
      exact ih.mpr ⟨hothers, hmerge⟩

/-- One index of the live app. -/
theorem mergeSource_eq_ok {merged next : MergedArtifacts} {source : SnapshotIndexInfo} :
    mergeSource merged source = .ok next ↔ source.functions ≠ [] ∧
      (∀ first, merged.first = some first → first.versions = source.versions) ∧
      (∀ function ∈ source.functions, function.Valid) ∧
      mergeFrom key compared merged.functions
        source.functions = some next.functions ∧
      next.first = some (merged.first.getD source) := by
  have hversions : (merged.first.any fun first => first.versions != source.versions) = true ↔
      ¬∀ first, merged.first = some first → first.versions = source.versions := by
    cases merged.first with
    | none => simp
    | some first => simp
  unfold mergeSource
  split
  next hempty => exact ⟨nofun, fun h => absurd hempty h.1⟩
  next hempty =>
    split
    next hany => exact ⟨nofun, fun h => absurd h.2.1 (hversions.mp hany)⟩
    next hany =>
      have hagree := not_not.mp fun h => hany (hversions.mpr h)
      constructor
      · intro h
        obtain ⟨functions, hfunctions, h⟩ := of_bind_ok h
        obtain rfl := Except.ok.inj h
        obtain ⟨hvalid, hmerge⟩ := foldlM_mergeFunction.mp hfunctions
        exact ⟨hempty, hagree, hvalid, hmerge, rfl⟩
      · rintro ⟨-, -, hvalid, hmerge, hfirst⟩
        rw [foldlM_mergeFunction.mpr ⟨hvalid, hmerge⟩]
        show Except.ok (MergedArtifacts.mk (some (merged.first.getD source)) next.functions) = _
        rw [← hfirst]

/-- The indexes of the live app. -/
def sourcesFor (app : LiveApp) (bundles : List ArtifactBundle) : List SnapshotIndexInfo :=
  bundles.filterMap fun bundle => bundle.snapshotIndex.filter (·.isFor app)

/-- The records of the live app. -/
def recordsFor (app : LiveApp) (bundles : List ArtifactBundle) : List SnapshotFunctionInfo :=
  (sourcesFor app bundles).flatMap (·.functions)

/-- What lets the indexes of the live app merge. -/
structure Mergeable (app : LiveApp) (bundles : List ArtifactBundle) : Prop where
  nonempty : ∀ source ∈ sourcesFor app bundles, source.functions ≠ []
  versions : ∀ left ∈ sourcesFor app bundles, ∀ right ∈ sourcesFor app bundles,
    left.versions = right.versions
  valid : ∀ function ∈ recordsFor app bundles, function.Valid
  agree : Agree key compared
    (recordsFor app bundles)

theorem foldlM_mergeBundle (app : LiveApp) (merged : MergedArtifacts)
    (bundles : List ArtifactBundle) :
    bundles.foldlM (mergeBundle app) merged =
      (sourcesFor app bundles).foldlM mergeSource merged := by
  unfold sourcesFor
  rw [foldlM_filterMap]
  refine congrArg (fun body => bundles.foldlM body merged)
    (funext fun state => funext fun bundle => ?_)
  unfold mergeBundle
  cases bundle.snapshotIndex with
  | none => rfl
  | some source =>
    rw [Option.filter_some]
    dsimp only
    cases source.isFor app <;> rfl

/-- The outer loop. -/
theorem foldlM_mergeSource {sources : List SnapshotIndexInfo} {merged : MergedArtifacts} :
    sources.foldlM mergeSource {} = .ok merged ↔ (∀ source ∈ sources, source.functions ≠ []) ∧
      (∀ left ∈ sources, ∀ right ∈ sources, left.versions = right.versions) ∧
      (∀ function ∈ sources.flatMap (·.functions), function.Valid) ∧
      merge key compared
        (sources.flatMap (·.functions)) = some merged.functions ∧
      merged.first = sources.head? := by
  induction sources using List.reverseRecOn generalizing merged with
  | nil =>
    constructor
    · intro h
      obtain rfl := Except.ok.inj h
      exact ⟨nofun, nofun, nofun, rfl, rfl⟩
    · rintro ⟨-, -, -, hmerge, hfirst⟩
      obtain ⟨first, functions⟩ := merged
      obtain rfl : none = first := hfirst.symm
      obtain rfl : [] = functions := Option.some.inj hmerge
      rfl
  | append_singleton sources source ih =>
    have hhead : (sources ++ [source]).head? = some (sources.head?.getD source) := by
      cases sources <;> rfl
    have hrecords : (sources ++ [source]).flatMap (·.functions) =
        sources.flatMap (·.functions) ++ source.functions := by
      rw [flatMap_append, flatMap_singleton]
    have hmerge : merge key compared
        (sources.flatMap (·.functions) ++ source.functions) = _ :=
      mergeFrom_append _ _ _
    rw [hrecords, hhead, hmerge, Option.bind_eq_some_iff, foldlM_append]
    constructor
    · intro h
      obtain ⟨before, hbefore, h⟩ := of_bind_ok h
      obtain ⟨between, hlast, h⟩ := of_bind_ok h
      obtain rfl := Except.ok.inj h
      obtain ⟨hnonempty, hversions, hvalid, hkept, hfirst⟩ := ih.mp hbefore
      obtain ⟨hsource, hsame, hfunctions, hnext, hnextFirst⟩ := mergeSource_eq_ok.mp hlast
      rw [hfirst] at hsame hnextFirst
      refine ⟨forall_mem_append.mpr ⟨hnonempty, forall_mem_singleton.mpr hsource⟩, ?_,
        forall_mem_append.mpr ⟨hvalid, hfunctions⟩, ⟨_, hkept, hnext⟩, hnextFirst⟩
      have hall : ∀ left ∈ sources ++ [source], left.versions = source.versions := by
        refine forall_mem_append.mpr ⟨fun left hleft => ?_, forall_mem_singleton.mpr rfl⟩
        obtain ⟨first, hhead⟩ : ∃ first, sources.head? = some first := by
          cases sources with
          | nil => cases hleft
          | cons first others => exact ⟨first, rfl⟩
        exact (hversions left hleft first (mem_of_head? hhead)).trans (hsame first hhead)
      exact fun left hleft right hright => (hall left hleft).trans (hall right hright).symm
    · rintro ⟨hnonempty, hversions, hvalid, ⟨functions, hkept, hnext⟩, hnextFirst⟩
      obtain ⟨hnonempty, hsource⟩ := forall_mem_append.mp hnonempty
      obtain ⟨hvalid, hfunctions⟩ := forall_mem_append.mp hvalid
      have hbefore := (@ih ⟨sources.head?, functions⟩).mpr ⟨hnonempty,
        fun left hleft right hright => hversions left (mem_append_left _ hleft) right
          (mem_append_left _ hright), hvalid, hkept, rfl⟩
      have hlast := (@mergeSource_eq_ok ⟨sources.head?, functions⟩ merged source).mpr
        ⟨hsource source mem_cons_self, fun first hfirst =>
          hversions first (mem_append_left _ (mem_of_head? hfirst)) source
            (mem_append_right _ mem_cons_self), hfunctions, hnext, hnextFirst⟩
      rw [hbefore]
      show (mergeSource _ source >>= pure) = _
      rw [hlast]
      rfl

section Outcome
variable {group : ArtifactGroup} {registry : ArtifactRegistry} {app : LiveApp}

/-- The index that is handed on, and when. -/
theorem bindArtifactIndexIfReady_eq_ok (happ : appToBind group registry = some app)
    {handed : Option SnapshotIndexInfo} :
    bindArtifactIndexIfReady group registry = .ok handed ↔ Mergeable app registry.bundles ∧
      ∃ kept, merge key compared
          (recordsFor app registry.bundles) = some kept ∧
        handed = (sourcesFor app registry.bundles).head?.map fun first =>
          { first with functions := kept } := by
  unfold bindArtifactIndexIfReady
  rw [happ]
  dsimp only
  rw [foldlM_mergeBundle]
  constructor
  · intro h
    obtain ⟨merged, hmerged, h⟩ := of_bind_ok h
    obtain rfl := Except.ok.inj h
    obtain ⟨hnonempty, hversions, hvalid, hkept, hfirst⟩ := foldlM_mergeSource.mp hmerged
    exact ⟨⟨hnonempty, hversions, hvalid, merge_isSome_iff.mp ⟨_, hkept⟩⟩,
      merged.functions, hkept, hfirst ▸ rfl⟩
  · rintro ⟨⟨hnonempty, hversions, hvalid, -⟩, kept, hkept, rfl⟩
    rw [(@foldlM_mergeSource _ ⟨(sourcesFor app registry.bundles).head?, kept⟩).mpr
      ⟨hnonempty, hversions, hvalid, hkept, rfl⟩]
    rfl

/-- An index is handed on, or none is needed, exactly when the indexes merge. -/
theorem bindArtifactIndexIfReady_isOk (happ : appToBind group registry = some app) :
    (∃ handed, bindArtifactIndexIfReady group registry = .ok handed) ↔
      Mergeable app registry.bundles := by
  constructor
  · rintro ⟨handed, h⟩
    exact ((bindArtifactIndexIfReady_eq_ok happ).mp h).1
  · intro h
    obtain ⟨kept, hkept⟩ := merge_isSome_iff.mpr h.agree
    exact ⟨_, (bindArtifactIndexIfReady_eq_ok happ).mpr ⟨h, kept, hkept, rfl⟩⟩

end Outcome

/-! ## The registered bundles stand for the others -/

section Registered
variable {app : LiveApp} {bundles others : List ArtifactBundle}

theorem mem_sourcesFor {source : SnapshotIndexInfo} : source ∈ sourcesFor app bundles ↔
    ∃ bundle ∈ bundles, bundle.snapshotIndex = some source ∧ source.isFor app = true := by
  simp only [sourcesFor, mem_filterMap, Option.filter_eq_some_iff]

theorem mem_recordsFor {function : SnapshotFunctionInfo} : function ∈ recordsFor app bundles ↔
    ∃ source ∈ sourcesFor app bundles, function ∈ source.functions :=
  mem_flatMap

theorem sourcesFor_subset (h : ∀ bundle ∈ bundles, bundle ∈ others) :
    ∀ source ∈ sourcesFor app bundles, source ∈ sourcesFor app others := by
  intro source hsource
  obtain ⟨bundle, hbundle, hindex⟩ := mem_sourcesFor.mp hsource
  exact mem_sourcesFor.mpr ⟨bundle, h bundle hbundle, hindex⟩

theorem recordsFor_subset (h : ∀ bundle ∈ bundles, bundle ∈ others) :
    ∀ function ∈ recordsFor app bundles, function ∈ recordsFor app others := by
  intro function hfunction
  obtain ⟨source, hsource, hmem⟩ := mem_recordsFor.mp hfunction
  exact mem_recordsFor.mpr ⟨source, sourcesFor_subset h source hsource, hmem⟩

/-- The payload of a record does not matter when it is merged. -/
theorem merged_alike {left right : SnapshotFunctionInfo}
    (h : left.withoutPayload = right.withoutPayload) :
    left.key = right.key ∧ left.compared = right.compared ∧ (left.Valid ↔ right.Valid) := by
  refine ⟨?_, ?_, ?_⟩
  · show left.withoutPayload.key = right.withoutPayload.key
    rw [h]
  · show left.withoutPayload.compared = right.withoutPayload.compared
    rw [h]
  · show left.withoutPayload.Valid ↔ right.withoutPayload.Valid
    rw [h]

theorem sources_alike (app : LiveApp) {left right : SnapshotIndexInfo}
    (h : left.withoutPayloads = right.withoutPayloads) :
    left.isFor app = right.isFor app ∧ left.versions = right.versions := by
  constructor
  · show left.withoutPayloads.isFor app = right.withoutPayloads.isFor app
    rw [h]
  · show left.withoutPayloads.versions = right.withoutPayloads.versions
    rw [h]

/-- An index of the live app has a registered one that differs from it in payloads only. -/
theorem registered_source {source : SnapshotIndexInfo} (h : source ∈ sourcesFor app bundles) :
    ∃ other ∈ sourcesFor app (registerBundles bundles).bundles,
      other.withoutPayloads = source.withoutPayloads := by
  obtain ⟨bundle, hbundle, hindex, hfor⟩ := mem_sourcesFor.mp h
  obtain ⟨registered, hregistered, hsame, -⟩ := (registerBundles_spec bundles).covers bundle hbundle
  have hindexes := congrArg ArtifactBundle.snapshotIndex hsame
  unfold ArtifactBundle.withoutPayloads at hindexes
  rw [hindex, Option.map_some] at hindexes
  obtain ⟨other, hother, hshape⟩ := Option.map_eq_some_iff.mp hindexes
  have hother_for := (sources_alike app hshape).1.trans hfor
  exact ⟨other, mem_sourcesFor.mpr ⟨registered, hregistered, hother, hother_for⟩, hshape⟩

theorem registered_record {function : SnapshotFunctionInfo}
    (h : function ∈ recordsFor app bundles) :
    ∃ other ∈ recordsFor app (registerBundles bundles).bundles,
      other.withoutPayload = function.withoutPayload := by
  obtain ⟨source, hsource, hfunction⟩ := mem_recordsFor.mp h
  obtain ⟨registered, hregistered, hsame⟩ := registered_source hsource
  have hmem : function.withoutPayload ∈ registered.withoutPayloads.functions := by
    rw [hsame]
    exact mem_map_of_mem hfunction
  obtain ⟨other, hother, hshape⟩ := mem_map.mp hmem
  exact ⟨other, mem_recordsFor.mpr ⟨registered, hregistered, hother⟩, hshape⟩

/-- The registered bundles merge exactly when all of them would. -/
theorem mergeable_registered :
    Mergeable app (registerBundles bundles).bundles ↔ Mergeable app bundles := by
  have hsubset := (registerBundles_spec bundles).subset
  constructor
  · rintro ⟨hnonempty, hversions, hvalid, hagree⟩
    constructor
    case nonempty =>
      intro source hsource hempty
      obtain ⟨other, hother, hshape⟩ := registered_source hsource
      have hfunctions := congrArg SnapshotIndexInfo.functions hshape
      unfold SnapshotIndexInfo.withoutPayloads at hfunctions
      rw [hempty, map_nil, map_eq_nil_iff] at hfunctions
      exact hnonempty other hother hfunctions
    case versions =>
      intro left hleft right hright
      obtain ⟨first, hfirst, hfirstShape⟩ := registered_source hleft
      obtain ⟨second, hsecond, hsecondShape⟩ := registered_source hright
      rw [← (sources_alike app hfirstShape).2, ← (sources_alike app hsecondShape).2]
      exact hversions first hfirst second hsecond
    case valid =>
      intro function hfunction
      obtain ⟨other, hother, hshape⟩ := registered_record hfunction
      exact (merged_alike hshape).2.2.mp (hvalid other hother)
    case agree =>
      intro left hleft right hright hkey
      obtain ⟨first, hfirst, hfirstShape⟩ := registered_record hleft
      obtain ⟨second, hsecond, hsecondShape⟩ := registered_record hright
      obtain ⟨hfirstKey, hfirstFacts, -⟩ := merged_alike hfirstShape
      obtain ⟨hsecondKey, hsecondFacts, -⟩ := merged_alike hsecondShape
      have hsame := hagree first hfirst second hsecond
        (hfirstKey.trans (hkey.trans hsecondKey.symm))
      exact hfirstFacts.symm.trans (hsame.trans hsecondFacts)
  · rintro ⟨hnonempty, hversions, hvalid, hagree⟩
    exact ⟨fun source hsource => hnonempty source (sourcesFor_subset hsubset source hsource),
      fun left hleft right hright => hversions left (sourcesFor_subset hsubset left hleft) right
        (sourcesFor_subset hsubset right hright),
      fun function hfunction => hvalid function (recordsFor_subset hsubset function hfunction),
      fun left hleft right hright => hagree left (recordsFor_subset hsubset left hleft) right
        (recordsFor_subset hsubset right hright)⟩

theorem mergeable_perm (hperm : bundles.Perm others) :
    Mergeable app bundles ↔ Mergeable app others := by
  have hsources : ∀ source, source ∈ sourcesFor app bundles ↔ source ∈ sourcesFor app others :=
    fun _ => (hperm.filterMap _).mem_iff
  have hrecords : ∀ function,
      function ∈ recordsFor app bundles ↔ function ∈ recordsFor app others :=
    fun _ => ((hperm.filterMap _).flatMap_right _).mem_iff
  constructor
  · rintro ⟨hnonempty, hversions, hvalid, hagree⟩
    simp only [hsources, hrecords, Agree] at hnonempty hversions hvalid hagree
    exact ⟨hnonempty, hversions, hvalid, hagree⟩
  · rintro ⟨hnonempty, hversions, hvalid, hagree⟩
    simp only [← hsources, ← hrecords, Agree] at hnonempty hversions hvalid hagree
    exact ⟨hnonempty, hversions, hvalid, hagree⟩

end Registered

/-! ## Exact merging -/

/-- What tells one logical function from another. -/
def SnapshotFunctionInfo.identity (function : SnapshotFunctionInfo) :
    String × String × String × String × BitVec 32 :=
  (function.libraryUri.getD "", function.className.getD "", function.functionName.getD "",
    function.signature.getD "", function.entryKind)

/-- The payload that the entry of a record lies in. -/
def SnapshotFunctionInfo.payload (function : SnapshotFunctionInfo) : BitVec 64 × BitVec 64 :=
  (function.codePayloadVa, function.codeInstructionsLength)

/-- A record as a later binding or lookup reads it: a missing text is empty, and the flag of a
closure is set or not. -/
def SnapshotFunctionInfo.normalized (function : SnapshotFunctionInfo) : SnapshotFunctionInfo :=
  { function with
    libraryUri := some (function.libraryUri.getD "")
    className := some (function.className.getD "")
    functionName := some (function.functionName.getD "")
    signature := some (function.signature.getD "")
    fingerprint := some (function.fingerprint.getD "")
    closureCallEntryOnly := if function.closureCallEntryOnly = 0 then 0 else 1 }

theorem normalized_eq {left right : SnapshotFunctionInfo}
    (hidentity : left.identity = right.identity)
    (hcompared : left.compared = right.compared) (hpayload : left.payload = right.payload) :
    left.normalized = right.normalized := by
  simp only [identity, compared,
    payload, Prod.mk.injEq, ComparedFacts.mk.injEq]
    at hidentity hcompared hpayload
  unfold normalized
  simp only [hidentity, hcompared, hpayload]

theorem payload_of_normalized {left right : SnapshotFunctionInfo}
    (h : left.normalized = right.normalized) : left.payload = right.payload := by
  show left.normalized.payload = right.normalized.payload
  rw [h]

/-- The loop does not keep both of two records that it could keep. -/
def Identified (left right : SnapshotFunctionInfo) : Prop :=
  left.Valid ∧ right.Valid ∧ mergeFunction [left] right ≠ .ok [left, right]

theorem identified_iff {left right : SnapshotFunctionInfo} :
    Identified left right ↔ left.Valid ∧ right.Valid ∧ left.key = right.key := by
  unfold Identified
  refine and_congr_right fun _ => and_congr_right fun hright => ?_
  rw [ne_eq, mergeFunction_eq_ok]
  constructor
  · intro h
    by_contra hkey
    exact h ⟨hright, keepRow_new (forall_mem_singleton.mpr hkey)⟩
  · rintro hkey ⟨-, hkeep⟩
    obtain ⟨-, hnew⟩ | ⟨hsame, -⟩ := keepRow_eq_some hkeep
    · exact hnew left mem_cons_self hkey
    · exact absurd (congrArg List.length hsame) (by simp)

/-- What is handed on, as a set of records: nothing where a conflict is reported. -/
def handedRecords (outcome : Result (Option SnapshotIndexInfo)) :
    Option (Option (Finset SnapshotFunctionInfo)) :=
  outcome.toOption.map fun handed => handed.map fun index =>
    (index.functions.map normalized).toFinset

/-- The index does not depend on the order in which the bundles were registered, records that become
one agree on all that is read later, and records of two functions never become one. -/
structure MergeExact (group : ArtifactGroup) (bundles : List ArtifactBundle) : Prop where
  order : ∀ others, bundles.Perm others →
    handedRecords (bindArtifactIndexIfReady group (registerBundles others)) =
      handedRecords (bindArtifactIndexIfReady group (registerBundles bundles))
  merged : ∀ app, appToBind group (registerBundles bundles) = some app →
    (∃ handed, bindArtifactIndexIfReady group (registerBundles bundles) = .ok handed) →
      ∀ left ∈ recordsFor app bundles, ∀ right ∈ recordsFor app bundles, Identified left right →
        left.normalized = right.normalized
  identity : ∀ app, appToBind group (registerBundles bundles) = some app →
    ∀ left ∈ recordsFor app bundles, ∀ right ∈ recordsFor app bundles, Identified left right →
      left.identity = right.identity

/-- Records with the same lines are records of one function. -/
def TextsDistinct (functions : List SnapshotFunctionInfo) : Prop :=
  ∀ left ∈ functions, ∀ right ∈ functions, left.Valid → right.Valid → left.key = right.key →
    left.identity = right.identity

/-- Records with the same lines lie in one payload. -/
def PayloadsAgree (functions : List SnapshotFunctionInfo) : Prop :=
  Agree key payload functions

section Exact
variable {group : ArtifactGroup} {app : LiveApp} {bundles others : List ArtifactBundle}

/-- Where the records of a key agree, the index holds just the records of all the bundles. -/
theorem handedRecords_eq (happ : appToBind group (registerBundles bundles) = some app)
    (hmergeable : Mergeable app bundles)
    (hagree : Agree key normalized
      (recordsFor app bundles)) :
    handedRecords (bindArtifactIndexIfReady group (registerBundles bundles)) =
      some (if sourcesFor app bundles = [] then none
        else some ((recordsFor app bundles).map normalized).toFinset) := by
  have hsubset := (registerBundles_spec bundles).subset
  obtain ⟨handed, hhanded⟩ := (bindArtifactIndexIfReady_isOk happ).mpr
    (mergeable_registered.mpr hmergeable)
  obtain ⟨-, kept, hkept, hindex⟩ := (bindArtifactIndexIfReady_eq_ok happ).mp hhanded
  obtain ⟨hkeptSubset, hcovers, -⟩ := kept_of_merge hkept
  have hrecords : (kept.map normalized).toFinset =
      ((recordsFor app bundles).map normalized).toFinset := by
    ext record
    simp only [mem_toFinset, mem_map]
    constructor
    · rintro ⟨function, hfunction, rfl⟩
      exact ⟨function, recordsFor_subset hsubset function (hkeptSubset function hfunction), rfl⟩
    · rintro ⟨function, hfunction, rfl⟩
      obtain ⟨other, hother, hshape⟩ := registered_record hfunction
      obtain ⟨current, hcurrent, hkey, -⟩ := hcovers other hother
      have hmem := recordsFor_subset hsubset current (hkeptSubset current hcurrent)
      exact ⟨current, hcurrent,
        hagree current hmem function hfunction (hkey.trans (merged_alike hshape).1)⟩
  rw [hhanded, hindex]
  cases hsources : sourcesFor app (registerBundles bundles).bundles with
  | nil =>
    have hempty : sourcesFor app bundles = [] := by
      refine eq_nil_iff_forall_not_mem.mpr fun source hsource => ?_
      obtain ⟨other, hother, -⟩ := registered_source hsource
      exact not_mem_nil (hsources ▸ hother)
    rw [if_pos hempty]
    rfl
  | cons first rest =>
    have hfirst : first ∈ sourcesFor app bundles :=
      sourcesFor_subset hsubset first (hsources ▸ mem_cons_self)
    rw [if_neg (ne_nil_of_mem hfirst), ← hrecords]
    rfl

/-- A conflict is reported in every order or in none. -/
theorem handedRecords_none (happ : appToBind group (registerBundles bundles) = some app)
    (h : ¬Mergeable app bundles) :
    handedRecords (bindArtifactIndexIfReady group (registerBundles bundles)) = none := by
  cases houtcome : bindArtifactIndexIfReady group (registerBundles bundles) with
  | error failure => rfl
  | ok handed =>
    exact absurd (mergeable_registered.mp ((bindArtifactIndexIfReady_isOk happ).mp
      ⟨handed, houtcome⟩)) h

/-- Merging is exact where no two functions have the same lines and, unless a conflict is reported,
the records with the same lines have the same payload. -/
theorem artifact_merge_exact_iff (group : ArtifactGroup) (bundles : List ArtifactBundle) :
    MergeExact group bundles ↔ ∀ app, appToBind group (registerBundles bundles) = some app →
      TextsDistinct (recordsFor app bundles) ∧
        (Mergeable app bundles → PayloadsAgree (recordsFor app bundles)) := by
  constructor
  · rintro ⟨-, hmerged, hidentity⟩ app happ
    refine ⟨fun left hleft right hright hleftValid hrightValid hkey => ?_,
      fun hmergeable left hleft right hright hkey => ?_⟩
    · exact hidentity app happ left hleft right hright
        (identified_iff.mpr ⟨hleftValid, hrightValid, hkey⟩)
    · have hok := (bindArtifactIndexIfReady_isOk happ).mpr (mergeable_registered.mpr hmergeable)
      exact payload_of_normalized (hmerged app happ hok left hleft right hright
        (identified_iff.mpr ⟨hmergeable.valid left hleft, hmergeable.valid right hright, hkey⟩))
  · intro hcondition
    have hnormalized (app : LiveApp) (happ : appToBind group (registerBundles bundles) = some app)
        (hmergeable : Mergeable app bundles) : Agree key
          normalized (recordsFor app bundles) := by
      obtain ⟨hdistinct, hpayloads⟩ := hcondition app happ
      intro left hleft right hright hkey
      exact normalized_eq
        (hdistinct left hleft right hright (hmergeable.valid left hleft)
          (hmergeable.valid right hright) hkey)
        (hmergeable.agree left hleft right hright hkey)
        (hpayloads hmergeable left hleft right hright hkey)
    constructor
    case order =>
      intro others hperm
      cases happ : appToBind group (registerBundles bundles) with
      | none =>
        have hothers := (appToBind_perm hperm group).symm.trans happ
        unfold bindArtifactIndexIfReady
        rw [happ, hothers]
      | some app =>
        have hothers := (appToBind_perm hperm group).symm.trans happ
        have hsources : (sourcesFor app bundles).Perm (sourcesFor app others) := hperm.filterMap _
        have hrecords : (recordsFor app bundles).Perm (recordsFor app others) :=
          hsources.flatMap_right _
        by_cases hmergeable : Mergeable app bundles
        · have hagree := hnormalized app happ hmergeable
          have hagreeOthers : Agree key
              normalized (recordsFor app others) :=
            fun left hleft right hright => hagree left (hrecords.mem_iff.mpr hleft) right
              (hrecords.mem_iff.mpr hright)
          have hempty : sourcesFor app others = [] ↔ sourcesFor app bundles = [] := by
            rw [← length_eq_zero_iff, ← length_eq_zero_iff, hsources.length_eq]
          rw [handedRecords_eq happ hmergeable hagree,
            handedRecords_eq hothers ((mergeable_perm hperm).mp hmergeable) hagreeOthers,
            toFinset_eq_of_perm _ _ (hrecords.map _)]
          simp only [hempty]
        · rw [handedRecords_none happ hmergeable,
            handedRecords_none hothers fun h => hmergeable ((mergeable_perm hperm).mpr h)]
    case merged =>
      intro app happ hok left hleft right hright hidentified
      obtain ⟨-, -, hkey⟩ := identified_iff.mp hidentified
      have hmergeable := mergeable_registered.mp ((bindArtifactIndexIfReady_isOk happ).mp hok)
      exact hnormalized app happ hmergeable left hleft right hright hkey
    case identity =>
      intro app happ left hleft right hright hidentified
      obtain ⟨hleftValid, hrightValid, hkey⟩ := identified_iff.mp hidentified
      exact (hcondition app happ).1 left hleft right hright hleftValid hrightValid hkey

end Exact

/-- A bundle with one function, a part of whose fields vary. -/
def bundleOf (className functionName : String) (payload length : BitVec 64) : ArtifactBundle :=
  { snapshotIndex := some
      { moduleName := some "libapp.so", moduleBuildId := some "a1", snapshotHash := some "c0"
        dartVersion := some "3.9", profileVersion := some "p"
        functions :=
          [{ libraryUri := some "package:app/main.dart", className := some className
             functionName := some functionName, signature := none, entryKind := 0
             entryVa := 0x1010, codeSize := 0x20, codeSectionVa := 0x1000
             fingerprint := some "5e", codeIdentityProof := 0, physicalEntryAliasCount := 0
             functionKind := 0, closureCallEntryOnly := 0, codePayloadVa := payload
             codeInstructionsLength := length }] }
    compilerAbiEvidence := [] }

def readyGroup : ArtifactGroup :=
  { boundArtifactSnapshotGeneration := 0
    profileMatched := true
    appModule := some
      { name := "libapp.so", path := "/data/libapp.so", buildId := "a1", loadBias := 0x6000
        executableRanges := [] }
    snapshot := some
      { moduleName := "libapp.so", modulePath := "/data/libapp.so", moduleBuildId := "a1"
        snapshotHash := "c0", snapshotFeatures := "", profileName := ""
        isolateInstructionsVa := 0x1000, isolateInstructionsSize := 0x100
        isolateInstructionsRuntime := 0x7000, compressedPointers := true
        deferredProgramHash := none } }

/-- Of two bundles that differ in a payload the first one is registered, and a line break makes one
function out of two. -/
theorem artifact_merge_not_exact :
    ¬MergeExact readyGroup [bundleOf "Main" "run" 0 0, bundleOf "Main" "run" 0x1000 0x30] ∧
      ¬MergeExact readyGroup [bundleOf "A" "f\ng" 0 0, bundleOf "A\nf" "g" 0 0] := by
  constructor
  · intro h
    have horder := h.order [bundleOf "Main" "run" 0x1000 0x30, bundleOf "Main" "run" 0 0]
      (List.Perm.swap _ _ [])
    revert horder
    decide +kernel
  · intro h
    have horder := h.order [bundleOf "A\nf" "g" 0 0, bundleOf "A" "f\ng" 0 0]
      (List.Perm.swap _ _ [])
    revert horder
    decide +kernel

end DartPlant
