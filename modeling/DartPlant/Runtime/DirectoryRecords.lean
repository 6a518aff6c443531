import DartPlant.Runtime.AliasMaps

/-! # The records of a directory

A live directory has three lists: an entry for each entry point of each function, a canonical record
for each function, and what was read of its FunctionType.  All three are appended from one observed
record at a time.  A directory is therefore a list of observed records over a header, and what is
done to its three lists is done to that list: appending, stripping the heap receipts, recounting the
aliases, and dropping the records of some owner or of some slot.
-/

namespace DartPlant
open DartPlantLiveVmFunctionInfo List

/-- What a directory reads of the generated profiles. -/
structure DirectoryProfiles where
  profiles : List RuntimeProfileRecord
  /-- `BuildCapabilityAbiKey` of the live Function index layout. -/
  liveIndexAbiKey : RuntimeProfileRecord → String
  instructionsPolymorphicEntryOffsetAot : RuntimeProfileRecord → BitVec 64
  instructionsMonomorphicEntryOffsetAot : RuntimeProfileRecord → BitVec 64

structure AotCodePayloadRange where
  start : BitVec 64
  end_ : BitVec 64
  hasMonomorphicEntry : Bool
  deriving DecidableEq, Repr

/-- `ComputeAotCodePayloadStart`, with its `out_has_monomorphic_entry`. -/
def computeAotCodePayloadStart (profiles : DirectoryProfiles) (profileVersion : BitVec 32)
    (normalEntry monomorphicEntry : BitVec 64) : Option (BitVec 64 × Bool) :=
  if normalEntry = 0 ∨ monomorphicEntry = 0 then none
  else
    match findRuntimeProfileByVersion profiles.profiles profileVersion with
    | none => none
    | some profile =>
      let hasMonomorphicEntry := normalEntry != monomorphicEntry
      let normalOffset :=
        if hasMonomorphicEntry then profiles.instructionsPolymorphicEntryOffsetAot profile else 0
      let monomorphicOffset :=
        if hasMonomorphicEntry then profiles.instructionsMonomorphicEntryOffsetAot profile else 0
      if normalEntry < normalOffset ∨ monomorphicEntry < monomorphicOffset then none
      else
        let start := normalEntry - normalOffset
        if start > BitVec.allOnes 64 - monomorphicOffset ∨
            monomorphicEntry ≠ start + monomorphicOffset then none
        else some (start, hasMonomorphicEntry)

/-- `ComputeAotCodePayloadRange`. -/
def computeAotCodePayloadRange (profiles : DirectoryProfiles) (profileVersion : BitVec 32)
    (normalEntry monomorphicEntry : BitVec 64) (instructionsLength : BitVec 32) :
    Option AotCodePayloadRange :=
  if instructionsLength = 0 then none
  else
    match computeAotCodePayloadStart profiles profileVersion normalEntry monomorphicEntry with
    | none => none
    | some (start, hasMonomorphicEntry) =>
      if start > BitVec.allOnes 64 - instructionsLength.setWidth 64 then none
      else
        let end_ := start + instructionsLength.setWidth 64
        if normalEntry < start ∨ normalEntry ≥ end_ ∨ monomorphicEntry < start ∨
            monomorphicEntry ≥ end_ then none
        else some ⟨start, end_, hasMonomorphicEntry⟩

/-- The payload range of a canonical record. -/
def DartPlantLiveVmFunctionInfo.payloadRange (profiles : DirectoryProfiles)
    (profileVersion : BitVec 32) (function : DartPlantLiveVmFunctionInfo) :
    Option AotCodePayloadRange :=
  computeAotCodePayloadRange profiles profileVersion (function.entryPoints.get .default)
    (function.entryPoints.get .monomorphic) function.codeSize

/-- The entry record of one kind. -/
def entryRecord (range : AotCodePayloadRange) (function : DartPlantLiveVmFunctionInfo)
    (kind : DartPlantEntryKind) : SnapshotFunction where
  owner := function.owner
  loadingUnitId := function.loadingUnitId
  ownerClassId := function.ownerClassId
  ownerFunctionIndex := function.ownerFunctionIndex
  libraryUri := function.libraryUri
  className := function.className
  functionName := function.functionName
  signature := ""
  entryKind := kind
  entryVa := function.entryVas.get kind
  codeSize := range.end_ - function.entryPoints.get kind
  codeSectionVa := function.codeSectionVa
  fingerprint := ""
  functionObject := function.function
  codeObject := function.code
  codeObjectPool := function.codeObjectPool
  codePayloadStart := range.start
  codeInstructionsLength := function.codeSize
  runtimeEntry := function.entryPoints.get kind
  codeEntry := function.entryPoints.get kind
  ownerClass := function.ownerClass
  library := function.library
  entryAliasCount := function.entryAliasCounts.get kind
  functionKind := function.functionKind
  closureCallEntryOnly := function.closureCallEntryOnly
  ownerIsToplevelClass := function.ownerIsToplevelClass
  codeOwnerMatchesFunction := function.codeOwnerMatchesFunction
  live := true

/-- The entries of a function lie in its payload and have addresses in their file. -/
def entriesInPayload (range : AotCodePayloadRange) (function : DartPlantLiveVmFunctionInfo) : Bool :=
  entryKinds.all fun kind => !function.hasEntry kind ||
    (function.entryPoints.get kind != 0 && function.entryVas.get kind != 0 &&
      range.start ≤ function.entryPoints.get kind && function.entryPoints.get kind < range.end_)

/-- `AppendLiveSnapshotFunctionRecord`. -/
def appendLiveSnapshotFunctionRecord (profiles : DirectoryProfiles)
    (function : DartPlantLiveVmFunctionInfo) (profileVersion : BitVec 32) (index : SnapshotIndex) :
    Option SnapshotIndex :=
  if function.entryKindMask = 0 ∨ function.codeSize = 0 then none
  else
    match function.payloadRange profiles profileVersion with
    | none => none
    | some range =>
      if entriesInPayload range function = false then none
      else some { index with
        functions := index.functions ++
          (entryKinds.filter fun kind => function.hasEntry kind).map (entryRecord range function)
        liveFunctionInfos := index.liveFunctionInfos ++ [function] }

structure LiveVmFunctionSnapshotRecord where
  function : DartPlantLiveVmFunctionInfo
  hasSemantics : Bool
  signature : DartPlantDartFunctionSignatureInfo
  parameters : List DartPlantDartParameterInfo
  deriving DecidableEq, Repr

/-- What was read of the record's FunctionType. -/
def LiveVmFunctionSnapshotRecord.semantic (functionTypeProfile : RuntimeProfileRecord)
    (record : LiveVmFunctionSnapshotRecord) : LiveFunctionSemanticSnapshot where
  owner := record.function.owner
  ownerClassId := record.function.ownerClassId
  ownerFunctionIndex := record.function.ownerFunctionIndex
  libraryUri := record.function.libraryUri
  className := record.function.className
  functionName := record.function.functionName
  functionTypeProfileVersion := functionTypeProfile.profileVersion
  functionTypeAbiKey := functionTypeProfile.functionTypeAbiKey
  signature := record.signature
  parameters := record.parameters

/-- `AppendLiveSnapshotRecord`. -/
def appendLiveSnapshotRecord (profiles : DirectoryProfiles)
    (liveIndexProfile functionTypeProfile : RuntimeProfileRecord) (index : SnapshotIndex)
    (record : LiveVmFunctionSnapshotRecord) : Option SnapshotIndex :=
  match appendLiveSnapshotFunctionRecord profiles record.function
      liveIndexProfile.profileVersion index with
  | none => none
  | some appended =>
    if record.hasSemantics = false then some appended
    else some { appended with
      liveFunctionSemantics :=
        appended.liveFunctionSemantics ++ [record.semantic functionTypeProfile] }

/-- The entry record without its heap receipts. -/
def SnapshotFunction.stripped (function : SnapshotFunction) : SnapshotFunction :=
  { function with
    functionObject := 0, codeObject := 0, codeObjectPool := 0, ownerClass := 0, library := 0 }

/-- The canonical record without its heap receipts. -/
def DartPlantLiveVmFunctionInfo.stripped (function : DartPlantLiveVmFunctionInfo) :
    DartPlantLiveVmFunctionInfo :=
  { function with function := 0, code := 0, codeObjectPool := 0, ownerClass := 0, library := 0 }

/-- `StabilizeLiveSnapshotIndexForPublication`. -/
def stabilizeLiveSnapshotIndexForPublication (index : SnapshotIndex) : SnapshotIndex :=
  { index with
    functions := index.functions.map SnapshotFunction.stripped
    liveFunctionInfos := index.liveFunctionInfos.map stripped
    stableLiveDirectory := true }

/-- The empty directory that `BuildLiveSnapshotIndexForImages` fills. -/
def emptyDirectory (profiles : DirectoryProfiles)
    (liveIndexProfile functionTypeProfile : RuntimeProfileRecord) : SnapshotIndex where
  stableLiveDirectory := false
  functions := []
  liveFunctionInfos := []
  liveFunctionSemantics := []
  vmProfileVersion := liveIndexProfile.profileVersion
  liveIndexAbiKey := profiles.liveIndexAbiKey liveIndexProfile
  functionTypeAbiKey := functionTypeProfile.functionTypeAbiKey

/-- `BuildLiveSnapshotIndexForImages`, from the records that were collected. -/
def buildLiveSnapshotIndexForImages (profiles : DirectoryProfiles)
    (liveIndexProfile functionTypeProfile : RuntimeProfileRecord)
    (records : List LiveVmFunctionSnapshotRecord) : Except String SnapshotIndex :=
  match records.foldlM (appendLiveSnapshotRecord profiles liveIndexProfile functionTypeProfile)
      (emptyDirectory profiles liveIndexProfile functionTypeProfile) with
  | none => .error "live VM Function index visitor rejected an entry family"
  | some index =>
    if index.functions = [] then .error "live VM Function index is empty" else .ok index

/-! ## A directory as a list of records -/

/-- A record, with the profile its FunctionType was read by. -/
structure ObservedFunction extends LiveVmFunctionSnapshotRecord where
  functionTypeProfile : RuntimeProfileRecord
  deriving DecidableEq, Repr

/-- The record with another canonical record. -/
def ObservedFunction.withFunction (record : ObservedFunction)
    (function : DartPlantLiveVmFunctionInfo) : ObservedFunction :=
  { record with function := function }

def ObservedFunction.stripped (record : ObservedFunction) : ObservedFunction :=
  record.withFunction record.function.stripped

def ObservedFunction.semantics (record : ObservedFunction) : Option LiveFunctionSemanticSnapshot :=
  if record.hasSemantics then some (record.semantic record.functionTypeProfile) else none

/-- Records appended in order. -/
def appendAll (profiles : DirectoryProfiles) (liveIndexProfile : RuntimeProfileRecord)
    (index : SnapshotIndex) (records : List ObservedFunction) : Option SnapshotIndex :=
  records.foldlM (fun index record =>
    appendLiveSnapshotRecord profiles liveIndexProfile record.functionTypeProfile index
      record.toLiveVmFunctionSnapshotRecord) index

/-- The entries of a canonical record. -/
def functionEntries (profiles : DirectoryProfiles) (profileVersion : BitVec 32)
    (function : DartPlantLiveVmFunctionInfo) : List SnapshotFunction :=
  match function.payloadRange profiles profileVersion with
  | none => []
  | some range =>
    (entryKinds.filter fun kind => function.hasEntry kind).map (entryRecord range function)

/-- The canonical record can be appended. -/
def acceptsFunction (profiles : DirectoryProfiles) (profileVersion : BitVec 32)
    (function : DartPlantLiveVmFunctionInfo) : Bool :=
  function.entryKindMask != 0 && function.codeSize != 0 &&
    (function.payloadRange profiles profileVersion).any fun range => entriesInPayload range function

/-- The directory of some records, under a header. -/
def directory (profiles : DirectoryProfiles) (header : SnapshotIndex)
    (records : List ObservedFunction) : SnapshotIndex :=
  { header with
    functions := records.flatMap fun record =>
      functionEntries profiles header.vmProfileVersion record.function
    liveFunctionInfos := records.map fun record => record.function
    liveFunctionSemantics := records.filterMap ObservedFunction.semantics }

/-- The lists of the index are those of the records, all of which could be appended. -/
structure RecordedBy (profiles : DirectoryProfiles) (records : List ObservedFunction)
    (index : SnapshotIndex) : Prop where
  lists : index = directory profiles index records
  accepted : ∀ record ∈ records,
    acceptsFunction profiles index.vmProfileVersion record.function = true

/-- Over the rows that are kept, the others give nothing. -/
theorem flatMap_filter {α β : Type} (keep : α → Bool) (f : α → List β) (rows : List α) :
    (rows.filter keep).flatMap f = rows.flatMap fun row => if keep row then f row else [] := by
  induction rows with
  | nil => rfl
  | cons row rows ih =>
    rw [flatMap_cons, ← ih]
    by_cases hkeep : keep row = true
    · rw [filter_cons_of_pos hkeep, flatMap_cons, if_pos hkeep]
    · rw [filter_cons_of_neg hkeep, if_neg hkeep, nil_append]

section Records
variable {profiles : DirectoryProfiles} {index index' : SnapshotIndex}
  {records appended : List ObservedFunction} {liveIndexProfile : RuntimeProfileRecord}

section
variable (h : RecordedBy profiles records index)
include h

theorem RecordedBy.infos : index.liveFunctionInfos = records.map fun record => record.function :=
  congrArg SnapshotIndex.liveFunctionInfos h.lists

theorem RecordedBy.functions : index.functions = records.flatMap fun record =>
      functionEntries profiles index.vmProfileVersion record.function :=
  congrArg SnapshotIndex.functions h.lists

theorem RecordedBy.semantics :
    index.liveFunctionSemantics = records.filterMap ObservedFunction.semantics :=
  congrArg SnapshotIndex.liveFunctionSemantics h.lists

/-- The entry list is flattened from the canonical records. -/
theorem RecordedBy.flattened : index.functions =
      index.liveFunctionInfos.flatMap (functionEntries profiles index.vmProfileVersion) := by
  rw [h.functions, h.infos, flatMap_map]

omit h in
/-- Where the payload of a canonical record is known, its entries are those of its mask. -/
theorem functionEntries_kinds {profileVersion : BitVec 32} {function : DartPlantLiveVmFunctionInfo}
    (h : acceptsFunction profiles profileVersion function = true) :
    (functionEntries profiles profileVersion function).map SnapshotFunction.entryKind =
      entryKinds.filter fun kind => function.hasEntry kind := by
  unfold acceptsFunction at h
  unfold functionEntries
  cases hrange : function.payloadRange profiles profileVersion with
  | none =>
    rw [hrange, Option.any_none, Bool.and_false] at h
    cases h
  | some range => exact map_map.trans (map_id _)

omit h in
theorem appendLiveSnapshotFunctionRecord_eq (function : DartPlantLiveVmFunctionInfo)
    (profileVersion : BitVec 32) (index : SnapshotIndex) :
    appendLiveSnapshotFunctionRecord profiles function profileVersion index =
      if acceptsFunction profiles profileVersion function then
        some { index with
          functions := index.functions ++ functionEntries profiles profileVersion function
          liveFunctionInfos := index.liveFunctionInfos ++ [function] }
      else none := by
  unfold appendLiveSnapshotFunctionRecord acceptsFunction functionEntries
  by_cases hempty : function.entryKindMask = 0 ∨ function.codeSize = 0
  · have hrefused : (function.entryKindMask != 0 && function.codeSize != 0) = false := by
      rcases hempty with hempty | hempty <;> simp [hempty]
    rw [if_pos hempty, hrefused]
    rfl
  · obtain ⟨hmask, hsize⟩ := not_or.mp hempty
    rw [if_neg hempty, bne_iff_ne.mpr hmask, bne_iff_ne.mpr hsize]
    cases hrange : function.payloadRange profiles profileVersion with
    | none => rfl
    | some range =>
      simp only [Option.any_some, Bool.true_and]
      by_cases hinside : entriesInPayload range function = true
      · rw [if_pos hinside, if_neg (by rw [hinside]; decide)]
      · rw [if_neg hinside, if_pos (Bool.eq_false_iff.mpr hinside)]

/-- Appending a record to a directory is appending it to the records. -/
theorem RecordedBy.append (record : ObservedFunction)
    (hversion : liveIndexProfile.profileVersion = index.vmProfileVersion) :
    appendLiveSnapshotRecord profiles liveIndexProfile record.functionTypeProfile index
        record.toLiveVmFunctionSnapshotRecord =
      if acceptsFunction profiles index.vmProfileVersion record.function then
        some (directory profiles index (records ++ [record])) else none := by
  unfold appendLiveSnapshotRecord
  rw [appendLiveSnapshotFunctionRecord_eq, hversion]
  by_cases haccepts : acceptsFunction profiles index.vmProfileVersion record.function = true
  · rw [if_pos haccepts, if_pos haccepts]
    unfold directory
    rw [flatMap_append, map_append, filterMap_append, ← h.functions, ← h.infos,
      ← h.semantics, flatMap_singleton, map_singleton]
    cases hsemantics : record.hasSemantics with
    | false =>
      have hnone : [record].filterMap ObservedFunction.semantics = [] :=
        filterMap_cons_none (if_neg (by rw [hsemantics]; decide))
      rw [hnone, append_nil]
      rfl
    | true =>
      have hsome : [record].filterMap ObservedFunction.semantics =
          [record.semantic record.functionTypeProfile] :=
        filterMap_cons_some (if_pos hsemantics)
      rw [hsome]
      rfl
  · rw [if_neg haccepts, if_neg haccepts]

/-- A directory that was given accepted records holds them too. -/
theorem RecordedBy.extend (haccepted : ∀ record ∈ appended,
      acceptsFunction profiles index.vmProfileVersion record.function = true)
    (hlists : index' = directory profiles index (records ++ appended)) :
    RecordedBy profiles (records ++ appended) index' := by
  subst hlists
  refine ⟨rfl, fun other hmem => ?_⟩
  rcases mem_append.mp hmem with hmem | hmem
  · exact h.accepted other hmem
  · exact haccepted other hmem

/-- Records are appended when each of them is accepted, and the directory then holds them too. -/
theorem RecordedBy.appendAll_iff
    (hversion : liveIndexProfile.profileVersion = index.vmProfileVersion) :
    appendAll profiles liveIndexProfile index appended = some index' ↔ (∀ record ∈ appended,
        acceptsFunction profiles index.vmProfileVersion record.function = true) ∧
        index' = directory profiles index (records ++ appended) := by
  induction appended using List.reverseRecOn generalizing index' with
  | nil =>
    rw [append_nil, ← h.lists]
    constructor
    · intro hnil
      exact ⟨nofun, (Option.some.inj hnil).symm⟩
    · rintro ⟨-, rfl⟩
      rfl
  | append_singleton appended record ih =>
    have hconcat : appendAll profiles liveIndexProfile index (appended ++ [record]) =
        (appendAll profiles liveIndexProfile index appended).bind fun index =>
          appendLiveSnapshotRecord profiles liveIndexProfile record.functionTypeProfile index
            record.toLiveVmFunctionSnapshotRecord := by
      unfold appendAll
      rw [foldlM_append]
      refine congrArg (Option.bind _) (funext fun index => ?_)
      rw [foldlM_cons]
      exact Option.bind_fun_some _
    rw [hconcat, Option.bind_eq_some_iff, forall_mem_append, forall_mem_singleton]
    constructor
    · rintro ⟨before, hbefore, hlast⟩
      obtain ⟨haccepted, hsame⟩ := ih.mp hbefore
      rw [(h.extend haccepted hsame).append record (by rw [hsame]; exact hversion)] at hlast
      split at hlast
      next hrecord =>
        rw [hsame] at hlast hrecord
        refine ⟨⟨haccepted, hrecord⟩, ?_⟩
        rw [← append_assoc]
        exact (Option.some.inj hlast).symm
      · cases hlast
    · rintro ⟨⟨haccepted, hrecord⟩, rfl⟩
      refine ⟨_, ih.mpr ⟨haccepted, rfl⟩, ?_⟩
      rw [(h.extend haccepted rfl).append record hversion, if_pos (by exact hrecord),
        ← append_assoc]
      rfl

/-! ## What is done to the records -/

omit h in
theorem functionEntries_stripped (profileVersion : BitVec 32)
    (function : DartPlantLiveVmFunctionInfo) :
    functionEntries profiles profileVersion function.stripped =
      (functionEntries profiles profileVersion function).map SnapshotFunction.stripped := by
  have hrange : function.stripped.payloadRange profiles profileVersion =
    function.payloadRange profiles profileVersion := rfl
  unfold functionEntries
  rw [hrange]
  cases function.payloadRange profiles profileVersion with
  | none => rfl
  | some range =>
    dsimp only
    rw [map_map]
    rfl

omit h in
/-- The alias count of an entry record is the one of its canonical record. -/
theorem functionEntries_recount (profileVersion : BitVec 32)
    (infos : List DartPlantLiveVmFunctionInfo) (function : DartPlantLiveVmFunctionInfo) :
    functionEntries profiles profileVersion (recountInfo infos function) =
      (functionEntries profiles profileVersion function).map (recountFunction infos) := by
  have hrange : (recountInfo infos function).payloadRange profiles profileVersion =
    function.payloadRange profiles profileVersion := rfl
  unfold functionEntries
  rw [hrange]
  cases function.payloadRange profiles profileVersion with
  | none => rfl
  | some range =>
    dsimp only
    rw [map_map]
    refine map_congr_left fun kind hkind => ?_
    have hentry : function.hasEntry kind = true := (mem_filter.mp hkind).2
    have hcount : (recountInfo infos function).entryAliasCounts.get kind =
        saturated (aliasesByKind infos kind (function.entryPoints.get kind)) := by
      cases kind <;> exact if_pos hentry
    unfold entryRecord
    rw [hcount]
    rfl

theorem RecordedBy.stabilize : RecordedBy profiles (records.map ObservedFunction.stripped)
      (stabilizeLiveSnapshotIndexForPublication index) := by
  constructor
  · unfold stabilizeLiveSnapshotIndexForPublication directory
    rw [h.functions, h.infos, h.semantics, map_flatMap, map_map, flatMap_map,
      map_map, filterMap_map]
    have hentries : (fun record : ObservedFunction =>
        (functionEntries profiles index.vmProfileVersion record.function).map
          SnapshotFunction.stripped) =
        fun record => functionEntries profiles index.vmProfileVersion record.function.stripped :=
      funext fun record => (functionEntries_stripped _ _).symm
    rw [hentries]
    rfl
  · intro record hmem
    obtain ⟨before, hbefore, rfl⟩ := mem_map.mp hmem
    exact h.accepted before hbefore

end

/-- The records, with their aliases counted among themselves. -/
def recounted (records : List ObservedFunction) : List ObservedFunction :=
  records.map fun record =>
    record.withFunction (recountInfo (records.map fun record => record.function) record.function)

theorem aliasesByKind_stripped (infos : List DartPlantLiveVmFunctionInfo)
    (kind : DartPlantEntryKind) (entry : Address) :
    aliasesByKind (infos.map stripped) kind entry =
      aliasesByKind infos kind entry :=
  countP_map

/-- Stripping and recounting do not meet. -/
theorem recountInfo_stripped (infos : List DartPlantLiveVmFunctionInfo)
    (function : DartPlantLiveVmFunctionInfo) :
    recountInfo (infos.map stripped) function.stripped =
      (recountInfo infos function).stripped := by
  unfold recountInfo
  simp only [aliasesByKind_stripped]
  rfl

theorem recounted_stripped (records : List ObservedFunction) :
    recounted (records.map ObservedFunction.stripped) =
      (recounted records).map ObservedFunction.stripped := by
  unfold recounted
  rw [map_map, map_map, map_map]
  refine map_congr_left fun record _ => ?_
  have hinfos : records.map ((fun record => record.function) ∘ ObservedFunction.stripped) =
      (records.map fun record => record.function).map stripped := by
    rw [map_map]
    rfl
  rw [hinfos]
  exact congrArg record.withFunction (recountInfo_stripped _ _)

theorem aliasesByKind_recount (others infos : List DartPlantLiveVmFunctionInfo)
    (kind : DartPlantEntryKind) (entry : Address) :
    aliasesByKind (infos.map (recountInfo others)) kind entry = aliasesByKind infos kind entry :=
  countP_map

/-- Only the entries of the others are counted. -/
theorem recountInfo_congr {infos others : List DartPlantLiveVmFunctionInfo}
    (h : ∀ kind entry, aliasesByKind infos kind entry = aliasesByKind others kind entry)
    (function : DartPlantLiveVmFunctionInfo) :
    recountInfo infos function = recountInfo others function := by
  unfold recountInfo
  simp only [h]

/-- The counts of a directory with these canonical records. -/
def aggregateCounts (infos : List DartPlantLiveVmFunctionInfo) (skippedFunctionCount : Nat) :
    DartPlantLiveVmFunctionIndexInfo where
  structSize := kLiveVmFunctionIndexInfoSize
  functionCount := infos.length
  codeTargetCount := (entriesOfKind infos .default).dedup.length
  sharedCodeTargetCount := (entriesOfKind infos .default).dedup.countP fun entry =>
    decide (aliasesByKind infos .default entry > 1)
  skippedFunctionCount := skippedFunctionCount

/-- The directory with its aliases counted from scratch. -/
def SnapshotIndex.recount (index : SnapshotIndex) : SnapshotIndex :=
  { index with
    liveFunctionInfos := index.liveFunctionInfos.map (recountInfo index.liveFunctionInfos)
    functions := index.functions.map (recountFunction index.liveFunctionInfos) }

/-- Whatever is recomputed is counted from scratch. -/
theorem recompute_eq_some {skipped : Nat} {info : DartPlantLiveVmFunctionIndexInfo}
    (h : recomputeLiveDirectoryAliasMetadata index skipped = some (index', info)) :
    index' = index.recount ∧ info = aggregateCounts index.liveFunctionInfos skipped := by
  unfold recomputeLiveDirectoryAliasMetadata at h
  dsimp only at h
  split at h
  · cases h
  · obtain ⟨rfl, rfl⟩ := Prod.mk.inj (Option.some.inj h)
    exact ⟨rfl, rfl⟩

theorem RecordedBy.recount (h : RecordedBy profiles records index) :
    RecordedBy profiles (recounted records) index.recount := by
  constructor
  · unfold directory recounted SnapshotIndex.recount
    dsimp only
    rw [h.functions, h.infos, h.semantics, map_flatMap, map_map, flatMap_map,
      map_map, filterMap_map]
    have hentries : (fun record : ObservedFunction =>
        (functionEntries profiles index.vmProfileVersion record.function).map
          (recountFunction (records.map fun record => record.function))) =
        fun record => functionEntries profiles index.vmProfileVersion
          (recountInfo (records.map fun record => record.function) record.function) :=
      funext fun record => (functionEntries_recount _ _ _).symm
    rw [hentries]
    rfl
  · intro record hmem
    obtain ⟨before, hbefore, rfl⟩ := mem_map.mp hmem
    exact h.accepted before hbefore

/-- The directory without the records that fail a test. -/
def SnapshotIndex.erase (index : SnapshotIndex) (keepInfo : DartPlantLiveVmFunctionInfo → Bool)
    (keepFunction : SnapshotFunction → Bool) (keepSemantic : LiveFunctionSemanticSnapshot → Bool) :
    SnapshotIndex :=
  { index with
    functions := index.functions.filter keepFunction
    liveFunctionInfos := index.liveFunctionInfos.filter keepInfo
    liveFunctionSemantics := index.liveFunctionSemantics.filter keepSemantic }

/-- The three lists lose the same records when their tests agree on what a record becomes. -/
theorem RecordedBy.erase (h : RecordedBy profiles records index)
    (keepInfo : DartPlantLiveVmFunctionInfo → Bool) (keepFunction : SnapshotFunction → Bool)
    (keepSemantic : LiveFunctionSemanticSnapshot → Bool)
    (hfunction : ∀ range function kind,
      keepFunction (entryRecord range function kind) = keepInfo function)
    (hsemantic : ∀ profile (record : LiveVmFunctionSnapshotRecord),
      keepSemantic (record.semantic profile) = keepInfo record.function) :
    RecordedBy profiles (records.filter fun record => keepInfo record.function)
      (index.erase keepInfo keepFunction keepSemantic) := by
  have hentries (record : ObservedFunction) :
      (functionEntries profiles index.vmProfileVersion record.function).filter keepFunction =
        if keepInfo record.function then
          functionEntries profiles index.vmProfileVersion record.function else [] := by
    unfold functionEntries
    cases record.function.payloadRange profiles index.vmProfileVersion with
    | none => exact (ite_self _).symm
    | some range =>
      dsimp only
      rw [filter_map]
      have hkeep : keepFunction ∘ entryRecord range record.function =
          fun _ => keepInfo record.function :=
        funext fun kind => hfunction range record.function kind
      rw [hkeep]
      split
      next hkept => rw [hkept, filter_true]
      next hkept => rw [Bool.eq_false_iff.mpr hkept, filter_false, map_nil]
  have hsemantics (record : ObservedFunction) :
      record.semantics.filter keepSemantic =
        if keepInfo record.function then record.semantics else none := by
    unfold ObservedFunction.semantics
    by_cases hread : record.hasSemantics = true
    · rw [if_pos hread, Option.filter_some, hsemantic]
    · rw [if_neg hread]
      exact (ite_self _).symm
  constructor
  · unfold directory SnapshotIndex.erase
    dsimp only
    rw [h.functions, h.infos, h.semantics, filter_flatMap, filter_map,
      filter_filterMap, filterMap_filter, flatMap_filter, funext hentries,
      funext hsemantics]
    rfl
  · intro record hmem
    exact h.accepted record (mem_filter.mp hmem).1

end Records

/-! ## Records of two images -/

/-- A profile whose polymorphic entry lies 24 bytes into the payload. -/
def arm64Profile : RuntimeProfileRecord where
  profileVersion := 1
  argumentsDescriptorRegister := 4
  functionTypeAbiKey := "function-type"

def arm64Profiles : DirectoryProfiles where
  profiles := [arm64Profile]
  liveIndexAbiKey := fun _ => "live-index"
  instructionsPolymorphicEntryOffsetAot := fun _ => 0x18
  instructionsMonomorphicEntryOffsetAot := fun _ => 0x8

/-- A function with all four entries, in the slot with this index of a class of its own image. -/
def slottedFunction (imageId : RuntimeImageId) (slot : BitVec 32) (payload : Address) :
    DartPlantLiveVmFunctionInfo where
  owner := ⟨1, 1, 1, imageId, imageId⟩
  loadingUnitId := imageId.setWidth 32
  ownerClassId := imageId.setWidth 32
  ownerFunctionIndex := slot
  function := payload + 1
  code := payload + 2
  codeObjectPool := 3
  ownerClass := 4
  library := 5
  entryPoints := ⟨payload + 0x18, payload + 0x18, payload + 0x8, payload + 0x8⟩
  entryKindMask := 0xf
  entryAliasCounts := ⟨1, 1, 1, 1⟩
  entryAliasCount := 1
  entryIsShared := false
  entryVas := ⟨0x118, 0x118, 0x108, 0x108⟩
  codeSectionVa := 0x100
  codeSize := 0x40

def observedFunction (imageId : RuntimeImageId) (slot : BitVec 32) (payload : Address) :
    ObservedFunction where
  function := slottedFunction imageId slot payload
  hasSemantics := true
  signature := ⟨32, 0, 0, 0, 0, 0, 0, 0⟩
  parameters := []
  functionTypeProfile := arm64Profile

/-- Two functions of the root, which share their code, and one of a deferred unit. -/
def twoImageRecords : List ObservedFunction :=
  [observedFunction 1 0 0x1000, observedFunction 1 1 0x1000, observedFunction 2 0 0x4000]

/-- The directory that these records make. -/
def sampleDirectory (records : List ObservedFunction) : SnapshotIndex :=
  directory arm64Profiles (emptyDirectory arm64Profiles arm64Profile arm64Profile) records

end DartPlant
