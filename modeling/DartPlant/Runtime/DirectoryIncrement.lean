import DartPlant.Lib.DistinctKeys
import DartPlant.Runtime.DirectoryPruning

/-! # Incremental refresh

When deferred units are loaded, their records are observed and merged into the published directory.
A record is replaced by the one that was observed in its stable owner slot.  What belongs to a changed
image is replaced only when its slot is observed again, so that the merge is exact for those
directories whose records of the changed images are all observed again.
-/

namespace DartPlant
open DistinctKeys DartPlantLiveVmFunctionInfo List

/-- `HasStableOwnerSlot`. -/
def hasStableOwnerSlot (ownerClassId ownerFunctionIndex : BitVec 32) : Bool :=
  ownerClassId != 0 && ownerFunctionIndex != 4294967295

/-- `StableOwnerSlotKey`. -/
def stableOwnerSlotKey (ownerClassId ownerFunctionIndex : BitVec 32) : BitVec 64 :=
  ownerClassId.setWidth 64 <<< 32 ||| ownerFunctionIndex.setWidth 64

/-- The key of a canonical record that has a stable slot. -/
def DartPlantLiveVmFunctionInfo.slotKey (function : DartPlantLiveVmFunctionInfo) :
    Option (BitVec 64) :=
  if hasStableOwnerSlot function.ownerClassId function.ownerFunctionIndex then
    some (stableOwnerSlotKey function.ownerClassId function.ownerFunctionIndex)
  else none

/-- What was observed of the changed images. -/
structure DeferredObservation where
  records : List LiveVmFunctionSnapshotRecord
  skippedFunctionCount : Nat

/-- `slot_changed`. -/
def slotChanged (changedSlots : List (BitVec 64)) (ownerClassId ownerFunctionIndex : BitVec 32) :
    Bool :=
  hasStableOwnerSlot ownerClassId ownerFunctionIndex &&
    changedSlots.contains (stableOwnerSlotKey ownerClassId ownerFunctionIndex)

/-- The base directory without the records whose slots changed. -/
def SnapshotIndex.eraseChanged (base : SnapshotIndex) (changedSlots : List (BitVec 64)) :
    SnapshotIndex :=
  { base with stableLiveDirectory := false }.erase
    (fun function => !slotChanged changedSlots function.ownerClassId function.ownerFunctionIndex)
    (fun function => !slotChanged changedSlots function.ownerClassId function.ownerFunctionIndex)
    fun semantic => !slotChanged changedSlots semantic.ownerClassId semantic.ownerFunctionIndex

/-- `BuildDeferredLiveSnapshotIndexIncrement`; `observed` is what
`CollectLiveVmDeferredFunctionSnapshotRecordsForImages` returns, or the detail of its failure. -/
def buildDeferredLiveSnapshotIndexIncrement (profiles : DirectoryProfiles) (base : SnapshotIndex)
    (changedRuntimeImageIds : List RuntimeImageId)
    (liveIndexProfile functionTypeProfile : RuntimeProfileRecord)
    (observed : Except String DeferredObservation) (baseInfo : DartPlantLiveVmFunctionIndexInfo) :
    Except String (SnapshotIndex × DartPlantLiveVmFunctionIndexInfo) :=
  if changedRuntimeImageIds = [] ∨ base.stableLiveDirectory = false ∨
      baseInfo.structSize < kLiveVmFunctionIndexInfoSize ∨
      baseInfo.functionCount ≠ base.liveFunctionInfos.length then
    .error "stable live Function delta base is invalid"
  else if base.vmProfileVersion ≠ liveIndexProfile.profileVersion ∨
      base.liveIndexAbiKey ≠ profiles.liveIndexAbiKey liveIndexProfile ∨
      base.functionTypeAbiKey ≠ functionTypeProfile.functionTypeAbiKey then
    .error "stable live Function delta capability ABI changed"
  else
    match collect (fun imageId => imageId != kInvalidRuntimeImageId) some
        changedRuntimeImageIds with
    | none => .error "stable live Function delta image set is invalid"
    | some targetImages =>
      if base.liveFunctionInfos.any (fun function => targetImages.contains function.owner.imageId &&
          !hasStableOwnerSlot function.ownerClassId function.ownerFunctionIndex) then
        .error "changed deferred image contains a slotless stable-directory record"
      else
        match observed with
        | .error detail =>
          .error (if detail = "" then "failed to capture deferred live Function delta" else detail)
        | .ok delta =>
          if delta.skippedFunctionCount ≠ 0 then
            .error "deferred live Function delta skipped a changed Function"
          else
            match collect (fun _ => true) slotKey
                base.liveFunctionInfos with
            | none => .error "stable live Function directory has duplicate owner slots"
            | some _ =>
              match collect (fun record : LiveVmFunctionSnapshotRecord =>
                  hasStableOwnerSlot record.function.ownerClassId
                    record.function.ownerFunctionIndex &&
                    targetImages.contains record.function.owner.imageId)
                  (fun record => record.function.slotKey) delta.records with
              | none => .error "deferred live Function delta has ambiguous owner-slot identity"
              | some changedSlots =>
                match delta.records.foldlM
                    (appendLiveSnapshotRecord profiles liveIndexProfile functionTypeProfile)
                    (base.eraseChanged changedSlots) with
                | none => .error "deferred live Function delta rejected an entry family"
                | some index =>
                  if index.liveFunctionInfos = [] ∨ index.functions = [] then
                    .error "deferred live Function delta produced an inconsistent stable directory"
                  else
                    match recomputeByMaps index baseInfo.skippedFunctionCount with
                    | none => .error
                      "deferred live Function delta produced an inconsistent stable directory"
                    | some (index, indexInfo) =>
                      .ok (stabilizeLiveSnapshotIndexForPublication index, indexInfo)

/-- The directories that are published: built from all that was observed, pruned, or refreshed. -/
inductive Published (profiles : DirectoryProfiles) : SnapshotIndex → Prop
  | built {liveIndexProfile functionTypeProfile : RuntimeProfileRecord}
      {records : List LiveVmFunctionSnapshotRecord} {index : SnapshotIndex} :
      buildLiveSnapshotIndexForImages profiles liveIndexProfile functionTypeProfile records =
        .ok index →
      Published profiles (stabilizeLiveSnapshotIndexForPublication index)
  | pruned {index pruned : SnapshotIndex} {retiredImages : List RuntimeImage}
      {indexInfo prunedInfo : DartPlantLiveVmFunctionIndexInfo} :
      Published profiles index →
      pruneStableLiveSnapshotIndexForImages index retiredImages indexInfo =
        .ok (pruned, prunedInfo) →
      Published profiles pruned
  | refreshed {base index : SnapshotIndex} {changedRuntimeImageIds : List RuntimeImageId}
      {liveIndexProfile functionTypeProfile : RuntimeProfileRecord}
      {observed : Except String DeferredObservation}
      {baseInfo indexInfo : DartPlantLiveVmFunctionIndexInfo} :
      Published profiles base →
      buildDeferredLiveSnapshotIndexIncrement profiles base changedRuntimeImageIds
        liveIndexProfile functionTypeProfile observed baseInfo = .ok (index, indexInfo) →
      Published profiles index

/-! ## What an accepted refresh merges -/

/-- Different slots have different keys. -/
theorem stableOwnerSlotKey_inj {leftClass leftIndex rightClass rightIndex : BitVec 32}
    (h : stableOwnerSlotKey leftClass leftIndex = stableOwnerSlotKey rightClass rightIndex) :
    leftClass = rightClass ∧ leftIndex = rightIndex := by
  have hbit (position : Nat) := congrArg (BitVec.getLsbD · position) h
  simp only [stableOwnerSlotKey, BitVec.getLsbD_or, BitVec.getLsbD_shiftLeft,
    BitVec.getLsbD_setWidth] at hbit
  constructor
  · refine BitVec.eq_of_getLsbD_eq fun position hposition => ?_
    have hhigh (index : BitVec 32) : index.getLsbD (32 + position) = false :=
      BitVec.getLsbD_of_ge _ _ (by omega)
    have hbit := hbit (32 + position)
    simp only [hhigh, Nat.add_sub_cancel_left, Bool.and_false, Bool.or_false] at hbit
    simpa [show ¬32 + position < 32 by omega, show 32 + position < 64 by omega,
      show position < 64 by omega] using hbit
  · refine BitVec.eq_of_getLsbD_eq fun position hposition => ?_
    simpa [hposition, show position < 64 by omega] using hbit position

/-- The slot is one of those that were observed. -/
def slotReported (delta : List LiveVmFunctionSnapshotRecord)
    (ownerClassId ownerFunctionIndex : BitVec 32) : Bool :=
  hasStableOwnerSlot ownerClassId ownerFunctionIndex && delta.any fun record =>
    record.function.ownerClassId == ownerClassId &&
      record.function.ownerFunctionIndex == ownerFunctionIndex

/-- The directory without the records whose slots were observed. -/
def SnapshotIndex.eraseReported (base : SnapshotIndex)
    (delta : List LiveVmFunctionSnapshotRecord) : SnapshotIndex :=
  { base with stableLiveDirectory := false }.erase
    (fun function => !slotReported delta function.ownerClassId function.ownerFunctionIndex)
    (fun function => !slotReported delta function.ownerClassId function.ownerFunctionIndex)
    fun semantic => !slotReported delta semantic.ownerClassId semantic.ownerFunctionIndex

theorem slotChanged_eq {delta : List LiveVmFunctionSnapshotRecord}
    {allow : LiveVmFunctionSnapshotRecord → Bool} {changedSlots : List (BitVec 64)}
    (hslots : collect allow (fun record => record.function.slotKey) delta = some changedSlots)
    (ownerClassId ownerFunctionIndex : BitVec 32) :
    slotChanged changedSlots ownerClassId ownerFunctionIndex =
      slotReported delta ownerClassId ownerFunctionIndex := by
  unfold slotChanged slotReported
  cases hstable : hasStableOwnerSlot ownerClassId ownerFunctionIndex with
  | false => rfl
  | true =>
    rw [Bool.true_and, Bool.true_and, Bool.eq_iff_iff, contains_iff_mem, mem_collect hslots,
      any_eq_true]
    refine exists_congr fun record => and_congr_right fun _ => ?_
    unfold slotKey
    rw [Bool.and_eq_true, beq_iff_eq, beq_iff_eq]
    constructor
    · intro h
      split at h
      · exact stableOwnerSlotKey_inj (Option.some.inj h)
      · cases h
    · rintro ⟨rfl, rfl⟩
      rw [if_pos hstable]

section Refresh
variable {profiles : DirectoryProfiles} {base index : SnapshotIndex}
  {changedRuntimeImageIds : List RuntimeImageId}
  {liveIndexProfile functionTypeProfile : RuntimeProfileRecord}
  {observed : Except String DeferredObservation} {delta : DeferredObservation}
  {baseInfo indexInfo : DartPlantLiveVmFunctionIndexInfo}

/-- What is known of a refresh that was accepted. -/
structure AcceptedRefresh (profiles : DirectoryProfiles) (base : SnapshotIndex)
    (changedRuntimeImageIds : List RuntimeImageId)
    (liveIndexProfile functionTypeProfile : RuntimeProfileRecord)
    (delta : List LiveVmFunctionSnapshotRecord) (index : SnapshotIndex) : Prop where
  version : liveIndexProfile.profileVersion = base.vmProfileVersion
  slotted : ∀ function ∈ base.liveFunctionInfos, function.owner.imageId ∈ changedRuntimeImageIds →
    hasStableOwnerSlot function.ownerClassId function.ownerFunctionIndex = true
  baseSlots : (base.liveFunctionInfos.filterMap slotKey).Nodup
  observed : ∀ record ∈ delta,
    hasStableOwnerSlot record.function.ownerClassId record.function.ownerFunctionIndex = true ∧
      record.function.owner.imageId ∈ changedRuntimeImageIds
  deltaSlots : (delta.filterMap fun record => record.function.slotKey).Nodup
  merged : ∃ merged, delta.foldlM
      (appendLiveSnapshotRecord profiles liveIndexProfile functionTypeProfile)
        (base.eraseReported delta) = some merged ∧
    index = stabilizeLiveSnapshotIndexForPublication merged.recount

theorem acceptedRefresh
    (h : buildDeferredLiveSnapshotIndexIncrement profiles base changedRuntimeImageIds
      liveIndexProfile functionTypeProfile observed baseInfo = .ok (index, indexInfo)) :
    ∃ delta, observed = .ok delta ∧ AcceptedRefresh profiles base changedRuntimeImageIds
      liveIndexProfile functionTypeProfile delta.records index := by
  unfold buildDeferredLiveSnapshotIndexIncrement at h
  split at h
  · cases h
  split at h
  · cases h
  next habi =>
    split at h
    · cases h
    next targetImages htargets =>
      have hmem (imageId : RuntimeImageId) :
          imageId ∈ targetImages ↔ imageId ∈ changedRuntimeImageIds := by
        rw [mem_collect htargets]
        constructor
        · rintro ⟨other, hother, hsame⟩
          obtain rfl := Option.some.inj hsame
          exact hother
        · intro hchanged
          exact ⟨imageId, hchanged, rfl⟩
      split at h
      · cases h
      next hslotted =>
        split at h
        · cases h
        next delta =>
          split at h
          · cases h
          split at h
          · cases h
          next baseSlots hbase =>
            split at h
            · cases h
            next changedSlots hslots =>
              split at h
              · cases h
              next merged hmerged =>
                split at h
                · cases h
                split at h
                · cases h
                next recounted recountedInfo hrecompute =>
                  obtain ⟨rfl, -⟩ := Prod.mk.inj (Except.ok.inj h)
                  rw [recomputeByMaps_eq] at hrecompute
                  obtain ⟨rfl, -⟩ := recompute_eq_some hrecompute
                  obtain ⟨-, hdistinct, -⟩ := collect_eq_some_iff.mp hbase
                  obtain ⟨hallowed, hdelta, -⟩ := collect_eq_some_iff.mp hslots
                  have herase : base.eraseChanged changedSlots =
                      base.eraseReported delta.records := by
                    unfold SnapshotIndex.eraseChanged SnapshotIndex.eraseReported
                    simp only [slotChanged_eq hslots]
                  refine ⟨delta, rfl, ?_, ?_, hdistinct, ?_, hdelta, merged, herase ▸ hmerged, rfl⟩
                  · by_contra hversion
                    exact habi (.inl (Ne.symm hversion))
                  · intro function hfunction himage
                    by_contra hstable
                    refine hslotted (any_eq_true.mpr ⟨function, hfunction, ?_⟩)
                    rw [Bool.and_eq_true, contains_iff_mem, hmem, Bool.not_eq_true']
                    exact ⟨himage, Bool.eq_false_iff.mpr hstable⟩
                  · intro record hrecord
                    have hrow := hallowed record hrecord
                    rw [Bool.and_eq_true, contains_iff_mem, hmem] at hrow
                    exact hrow

/-- A record of the delta, with the profile its FunctionType was read by. -/
def LiveVmFunctionSnapshotRecord.observedBy (functionTypeProfile : RuntimeProfileRecord)
    (record : LiveVmFunctionSnapshotRecord) : ObservedFunction :=
  { record with functionTypeProfile := functionTypeProfile }

theorem appendAll_observedBy (profiles : DirectoryProfiles)
    (liveIndexProfile functionTypeProfile : RuntimeProfileRecord) (index : SnapshotIndex)
    (records : List LiveVmFunctionSnapshotRecord) :
    records.foldlM (appendLiveSnapshotRecord profiles liveIndexProfile functionTypeProfile) index =
      appendAll profiles liveIndexProfile index
        (records.map (LiveVmFunctionSnapshotRecord.observedBy functionTypeProfile)) := by
  unfold appendAll
  rw [foldlM_map]
  rfl

/-- How a canonical record is published in a directory. -/
def publishedInfo (index : SnapshotIndex) (function : DartPlantLiveVmFunctionInfo) :
    DartPlantLiveVmFunctionInfo :=
  recountInfo index.liveFunctionInfos function.stripped

/-- The semantics of the records that have them. -/
def observedSemantics (functionTypeProfile : RuntimeProfileRecord)
    (delta : List LiveVmFunctionSnapshotRecord) : List LiveFunctionSemanticSnapshot :=
  (delta.filter fun record => record.hasSemantics).map fun record =>
    record.semantic functionTypeProfile

theorem filterMap_observedBy (functionTypeProfile : RuntimeProfileRecord)
    (delta : List LiveVmFunctionSnapshotRecord) :
    (delta.map (LiveVmFunctionSnapshotRecord.observedBy functionTypeProfile)).filterMap
      ObservedFunction.semantics = observedSemantics functionTypeProfile delta := by
  unfold observedSemantics
  rw [filterMap_map, ← filterMap_eq_map, filterMap_filter]
  rfl

/-- A directory whose records are all stripped of their heap receipts. -/
structure PublishedRecords (profiles : DirectoryProfiles) (records : List ObservedFunction)
    (index : SnapshotIndex) : Prop extends RecordedBy profiles records index where
  stripped : ∀ record ∈ records, record.stripped = record

/-- What a refresh publishes: the records of the base whose slots were not observed, then the
delta. -/
structure Merged (profiles : DirectoryProfiles) (functionTypeProfile : RuntimeProfileRecord)
    (base : SnapshotIndex) (delta : List LiveVmFunctionSnapshotRecord) (index : SnapshotIndex) :
    Prop where
  version : index.vmProfileVersion = base.vmProfileVersion
  infos : index.liveFunctionInfos =
    (base.liveFunctionInfos.filter fun function =>
      !slotReported delta function.ownerClassId function.ownerFunctionIndex).map
        (recountInfo index.liveFunctionInfos) ++
      delta.map fun record => publishedInfo index record.function
  functions : index.functions =
    (base.functions.filter fun function =>
      !slotReported delta function.ownerClassId function.ownerFunctionIndex).map
        (recountFunction index.liveFunctionInfos) ++
      delta.flatMap fun record =>
        functionEntries profiles index.vmProfileVersion (publishedInfo index record.function)
  semantics : index.liveFunctionSemantics =
    (base.liveFunctionSemantics.filter fun semantic =>
      !slotReported delta semantic.ownerClassId semantic.ownerFunctionIndex) ++
      observedSemantics functionTypeProfile delta
  recorded : ∃ records, PublishedRecords profiles records index

theorem AcceptedRefresh.publishes {delta : List LiveVmFunctionSnapshotRecord}
    {records : List ObservedFunction}
    (h : AcceptedRefresh profiles base changedRuntimeImageIds liveIndexProfile functionTypeProfile
      delta index)
    (hbase : PublishedRecords profiles records base) :
    Merged profiles functionTypeProfile base delta index := by
  obtain ⟨merged, hmerged, rfl⟩ := h.merged
  have hopened : RecordedBy profiles records { base with stableLiveDirectory := false } :=
    ⟨congrArg (fun index : SnapshotIndex => { index with stableLiveDirectory := false })
      hbase.lists, hbase.accepted⟩
  have hkept : RecordedBy profiles (records.filter fun record =>
      !slotReported delta record.function.ownerClassId record.function.ownerFunctionIndex)
      (base.eraseReported delta) :=
    hopened.erase (fun function =>
      !slotReported delta function.ownerClassId function.ownerFunctionIndex) _ _
      (fun _ _ _ => rfl) fun _ _ => rfl
  rw [appendAll_observedBy, hkept.appendAll_iff h.version] at hmerged
  obtain ⟨haccepted, hlists⟩ := hmerged
  have hmerged := hkept.extend haccepted hlists
  have hindex := hmerged.recount.stabilize
  have hsame : ∀ kind entry, aliasesByKind merged.liveFunctionInfos kind entry = aliasesByKind
      (stabilizeLiveSnapshotIndexForPublication merged.recount).liveFunctionInfos kind entry := by
    intro kind entry
    exact ((aliasesByKind_stripped _ _ _).trans (aliasesByKind_recount _ _ _ _)).symm
  have hpublished (function : DartPlantLiveVmFunctionInfo) :
      (recountInfo merged.liveFunctionInfos function).stripped =
        publishedInfo (stabilizeLiveSnapshotIndexForPublication merged.recount) function := by
    rw [← recountInfo_stripped]
    refine recountInfo_congr (fun kind entry => ?_) _
    rw [aliasesByKind_stripped, hsame]
  have hstripped : ∀ function ∈ (base.eraseReported delta).liveFunctionInfos,
      function.stripped = function := by
    intro function hmem
    have hbefore : function ∈ base.liveFunctionInfos := (mem_filter.mp hmem).1
    rw [hbase.infos] at hbefore
    obtain ⟨record, hrecord, rfl⟩ := mem_map.mp hbefore
    exact congrArg (fun record : ObservedFunction => record.function)
      (hbase.stripped record hrecord)
  have hinfos : (stabilizeLiveSnapshotIndexForPublication merged.recount).liveFunctionInfos =
      (base.eraseReported delta).liveFunctionInfos.map (recountInfo
          (stabilizeLiveSnapshotIndexForPublication merged.recount).liveFunctionInfos) ++
        delta.map fun record => publishedInfo
          (stabilizeLiveSnapshotIndexForPublication merged.recount) record.function := by
    have hall : (stabilizeLiveSnapshotIndexForPublication merged.recount).liveFunctionInfos =
        merged.liveFunctionInfos.map (publishedInfo
          (stabilizeLiveSnapshotIndexForPublication merged.recount)) := by
      rw [← funext hpublished]
      exact map_map
    have hlast : (delta.map
        (LiveVmFunctionSnapshotRecord.observedBy functionTypeProfile)).map
          (fun record => record.function) = delta.map fun record => record.function := by
      rw [map_map]
      rfl
    refine hall.trans ((congrArg (List.map _) hmerged.infos).trans ?_)
    rw [map_append, map_append, ← hkept.infos, hlast, map_map]
    refine congrArg (· ++ _) (map_congr_left fun function hmem => ?_)
    exact congrArg _ (hstripped function hmem)
  have hversion : (stabilizeLiveSnapshotIndexForPublication merged.recount).vmProfileVersion =
      base.vmProfileVersion := by
    subst hlists
    rfl
  refine ⟨hversion, hinfos, ?_, ?_, _, hindex, ?_⟩
  · have hkeptEntries : (base.eraseReported delta).functions =
        (base.eraseReported delta).liveFunctionInfos.flatMap
          (functionEntries profiles base.vmProfileVersion) := hkept.flattened
    refine hindex.flattened.trans ((congrArg (List.flatMap _) hinfos).trans ?_)
    rw [flatMap_append, flatMap_map, flatMap_map, hversion]
    refine congrArg (· ++ _) ?_
    simp only [functionEntries_recount]
    rw [← map_flatMap, ← hkeptEntries]
    rfl
  · rw [hindex.semantics, filterMap_map, recounted, filterMap_map, filterMap_append,
      ← filterMap_observedBy]
    exact congrArg (· ++ _) hkept.semantics.symm
  · intro record hmem
    obtain ⟨before, -, rfl⟩ := mem_map.mp hmem
    rfl

/-- Every published directory is made of stripped records. -/
theorem Published.records (h : Published profiles index) :
    ∃ records, PublishedRecords profiles records index := by
  induction h with
  | @built liveIndexProfile functionTypeProfile records index hbuilt =>
    unfold buildLiveSnapshotIndexForImages at hbuilt
    split at hbuilt
    · cases hbuilt
    next appended happended =>
      split at hbuilt
      · cases hbuilt
      · obtain rfl := Except.ok.inj hbuilt
        have hempty := recordedBy_empty profiles liveIndexProfile functionTypeProfile
        rw [appendAll_observedBy, hempty.appendAll_iff rfl] at happended
        obtain ⟨haccepted, hlists⟩ := happended
        refine ⟨_, (hempty.extend haccepted hlists).stabilize, fun record hmem => ?_⟩
        obtain ⟨before, -, rfl⟩ := mem_map.mp hmem
        rfl
  | pruned _ hpruned ih =>
    obtain ⟨records, hrecords⟩ := ih
    obtain ⟨rfl, -⟩ := prune_eq_ok hpruned
    refine ⟨_, (hrecords.eraseRetired _).recount, fun record hmem => ?_⟩
    obtain ⟨before, hbefore, rfl⟩ := mem_map.mp hmem
    have hstripped := hrecords.stripped before (mem_filter.mp hbefore).1
    exact congrArg (fun stripped : ObservedFunction => stripped.withFunction (recountInfo _
      stripped.function)) hstripped
  | refreshed _ hrefreshed ih =>
    obtain ⟨records, hrecords⟩ := ih
    obtain ⟨delta, -, haccepted⟩ := acceptedRefresh hrefreshed
    exact (haccepted.publishes hrecords).recorded

/-! ## What a refresh leaves of the changed images -/

/-- The directory holds the delta for the changed images, what it held before for the others, and no
slot twice. -/
structure NothingStale (profiles : DirectoryProfiles) (functionTypeProfile : RuntimeProfileRecord)
    (base : SnapshotIndex) (changedRuntimeImageIds : List RuntimeImageId)
    (delta : List LiveVmFunctionSnapshotRecord) (index : SnapshotIndex) : Prop where
  changedInfos : (index.liveFunctionInfos.filter fun function =>
    changedRuntimeImageIds.contains function.owner.imageId) =
      delta.map fun record => publishedInfo index record.function
  changedFunctions : (index.functions.filter fun function =>
    changedRuntimeImageIds.contains function.owner.imageId) =
      delta.flatMap fun record =>
        functionEntries profiles index.vmProfileVersion (publishedInfo index record.function)
  changedSemantics : (index.liveFunctionSemantics.filter fun semantic =>
    changedRuntimeImageIds.contains semantic.owner.imageId) =
      observedSemantics functionTypeProfile delta
  keptInfos : (index.liveFunctionInfos.filter fun function =>
    !changedRuntimeImageIds.contains function.owner.imageId) =
      (base.liveFunctionInfos.filter fun function =>
        !changedRuntimeImageIds.contains function.owner.imageId &&
          !slotReported delta function.ownerClassId function.ownerFunctionIndex).map
        (recountInfo index.liveFunctionInfos)
  keptFunctions : (index.functions.filter fun function =>
    !changedRuntimeImageIds.contains function.owner.imageId) =
      (base.functions.filter fun function =>
        !changedRuntimeImageIds.contains function.owner.imageId &&
          !slotReported delta function.ownerClassId function.ownerFunctionIndex).map
        (recountFunction index.liveFunctionInfos)
  keptSemantics : (index.liveFunctionSemantics.filter fun semantic =>
    !changedRuntimeImageIds.contains semantic.owner.imageId) =
      base.liveFunctionSemantics.filter fun semantic =>
        !changedRuntimeImageIds.contains semantic.owner.imageId &&
          !slotReported delta semantic.ownerClassId semantic.ownerFunctionIndex
  slots : (index.liveFunctionInfos.filterMap
    stableOwnerSlot).Nodup
  flattened : index.functions =
    index.liveFunctionInfos.flatMap (functionEntries profiles index.vmProfileVersion)
  entries : ∀ function ∈ index.liveFunctionInfos,
    (functionEntries profiles index.vmProfileVersion function).map SnapshotFunction.entryKind =
      entryKinds.filter fun kind => function.hasEntry kind

/-- Of some rows that were kept and some that all pass a test, the test finds the kept rows that
pass it and all the others. -/
theorem filter_kept_append {α : Type} {f : α → α} {keep test : α → Bool}
    (hf : ∀ row, test (f row) = test row) (rows : List α) {appended : List α}
    (happended : ∀ row ∈ appended, test row = true) :
    ((rows.filter keep).map f ++ appended).filter test =
      (rows.filter fun row => test row && keep row).map f ++ appended := by
  have hcomp : test ∘ f = test := funext hf
  rw [filter_append, filter_map, hcomp, filter_filter,
    filter_eq_self.mpr happended]

/-- The complement of the test finds the kept rows that do not pass it, and no other. -/
theorem filter_not_kept_append {α : Type} {f : α → α} {keep test : α → Bool}
    (hf : ∀ row, test (f row) = test row) (rows : List α) {appended : List α}
    (happended : ∀ row ∈ appended, test row = true) :
    ((rows.filter keep).map f ++ appended).filter (fun row => !test row) =
      (rows.filter fun row => !test row && keep row).map f := by
  have hcomp : (fun row => !test row) ∘ f = fun row => !test row :=
    funext fun row => congrArg not (hf row)
  have hnone : appended.filter (fun row => !test row) = [] := by
    refine filter_eq_nil_iff.mpr fun row hrow => ?_
    rw [happended row hrow]
    exact Bool.false_ne_true
  rw [filter_append, filter_map, hcomp, filter_filter, hnone, append_nil]

/-- An entry is in the image and in the slot of its function. -/
theorem functionEntries_slot {profileVersion : BitVec 32} {function : DartPlantLiveVmFunctionInfo}
    {entry : SnapshotFunction} (h : entry ∈ functionEntries profiles profileVersion function) :
    entry.owner = function.owner ∧ entry.ownerClassId = function.ownerClassId ∧
      entry.ownerFunctionIndex = function.ownerFunctionIndex := by
  unfold functionEntries at h
  split at h
  · cases h
  · obtain ⟨kind, -, rfl⟩ := mem_map.mp h
    exact ⟨rfl, rfl, rfl⟩

/-- A record's slot key, from its slot. -/
theorem slotKey_eq (function : DartPlantLiveVmFunctionInfo) :
    function.slotKey =
      function.stableOwnerSlot.map fun slot => stableOwnerSlotKey slot.1 slot.2 := by
  unfold slotKey stableOwnerSlot
    hasStableOwnerSlot
  by_cases hstable : function.ownerClassId ≠ 0 ∧ function.ownerFunctionIndex ≠ 4294967295
  · rw [if_pos hstable, if_pos (by rw [Bool.and_eq_true, bne_iff_ne, bne_iff_ne]; exact hstable)]
    rfl
  · rw [if_neg hstable,
      if_neg fun h => hstable (by rwa [Bool.and_eq_true, bne_iff_ne, bne_iff_ne] at h)]
    rfl

/-- Distinct keys come from distinct slots. -/
theorem nodup_stableOwnerSlots {infos : List DartPlantLiveVmFunctionInfo}
    (h : (infos.filterMap slotKey).Nodup) :
    (infos.filterMap stableOwnerSlot).Nodup := by
  rw [funext slotKey_eq, ← map_filterMap] at h
  exact h.of_map

/-- A record whose key is among the delta's has its slot reported. -/
theorem slotReported_of_mem {delta : List LiveVmFunctionSnapshotRecord}
    {function : DartPlantLiveVmFunctionInfo} {record : LiveVmFunctionSnapshotRecord}
    (hrecord : record ∈ delta) {key : BitVec 64} (hkey : function.slotKey = some key)
    (hsame : record.function.slotKey = some key) :
    slotReported delta function.ownerClassId function.ownerFunctionIndex = true := by
  unfold slotKey at hkey hsame
  split at hkey
  next hstable =>
    split at hsame
    · obtain rfl := Option.some.inj hkey
      obtain ⟨hclass, hindex⟩ := stableOwnerSlotKey_inj (Option.some.inj hsame)
      unfold slotReported
      rw [hstable, Bool.true_and, any_eq_true]
      refine ⟨record, hrecord, ?_⟩
      rw [hclass, hindex, beq_self_eq_true, beq_self_eq_true]
      rfl
    · cases hsame
  · cases hkey

/-- What is kept has none of the slots that were observed, so that no slot comes twice. -/
theorem Merged.slotKeys {delta : List LiveVmFunctionSnapshotRecord}
    (hmerged : Merged profiles functionTypeProfile base delta index)
    (h : AcceptedRefresh profiles base changedRuntimeImageIds liveIndexProfile functionTypeProfile
      delta index) :
    (index.liveFunctionInfos.filterMap slotKey).Nodup := by
  have hkeys : index.liveFunctionInfos.filterMap slotKey =
      (base.liveFunctionInfos.filter fun function =>
        !slotReported delta function.ownerClassId function.ownerFunctionIndex).filterMap
          slotKey ++
        delta.filterMap fun record => record.function.slotKey := by
    rw [hmerged.infos, filterMap_append, filterMap_map, filterMap_map]
    rfl
  rw [hkeys, nodup_append]
  refine ⟨h.baseSlots.sublist (filter_sublist.filterMap _), h.deltaSlots, ?_⟩
  intro key hkept other hother hsame
  subst hsame
  obtain ⟨function, hfunction, hkey⟩ := mem_filterMap.mp hkept
  obtain ⟨record, hrecord, hsame⟩ := mem_filterMap.mp hother
  have hnot := (mem_filter.mp hfunction).2
  rw [slotReported_of_mem hrecord hkey hsame] at hnot
  cases hnot

/-- A refresh leaves nothing stale exactly when every record that the directory had of a changed
image was observed again in its slot. -/
theorem refresh_exact_iff (hbase : Published profiles base)
    (h : buildDeferredLiveSnapshotIndexIncrement profiles base changedRuntimeImageIds
      liveIndexProfile functionTypeProfile (.ok delta) baseInfo = .ok (index, indexInfo)) :
    NothingStale profiles functionTypeProfile base changedRuntimeImageIds delta.records index ↔
      ∀ function ∈ base.liveFunctionInfos, function.owner.imageId ∈ changedRuntimeImageIds →
        slotReported delta.records function.ownerClassId function.ownerFunctionIndex = true := by
  obtain ⟨records, hrecords⟩ := hbase.records
  obtain ⟨delta', hdelta, haccepted⟩ := acceptedRefresh h
  obtain rfl := Except.ok.inj hdelta
  have hmerged := haccepted.publishes hrecords
  obtain ⟨published, hpublished⟩ := hmerged.recorded
  have hinfo : ∀ function ∈ delta.records.map fun record => publishedInfo index record.function,
      changedRuntimeImageIds.contains function.owner.imageId = true := by
    intro function hmem
    obtain ⟨record, hrecord, rfl⟩ := mem_map.mp hmem
    exact contains_iff_mem.mpr (haccepted.observed record hrecord).2
  have hentry : ∀ entry ∈ delta.records.flatMap fun record =>
      functionEntries profiles index.vmProfileVersion (publishedInfo index record.function),
      changedRuntimeImageIds.contains entry.owner.imageId = true := by
    intro entry hmem
    obtain ⟨record, hrecord, hmem⟩ := mem_flatMap.mp hmem
    rw [(functionEntries_slot hmem).1]
    exact contains_iff_mem.mpr (haccepted.observed record hrecord).2
  have hsemantic : ∀ semantic ∈ observedSemantics functionTypeProfile delta.records,
      changedRuntimeImageIds.contains semantic.owner.imageId = true := by
    intro semantic hmem
    obtain ⟨record, hrecord, rfl⟩ := mem_map.mp hmem
    exact contains_iff_mem.mpr
      (haccepted.observed record (mem_filter.mp hrecord).1).2
  have hsemantics : index.liveFunctionSemantics =
      (base.liveFunctionSemantics.filter fun semantic =>
        !slotReported delta.records semantic.ownerClassId semantic.ownerFunctionIndex).map id ++
        observedSemantics functionTypeProfile delta.records := by
    rw [map_id]
    exact hmerged.semantics
  have hrecount (function : DartPlantLiveVmFunctionInfo) : changedRuntimeImageIds.contains
      (recountInfo index.liveFunctionInfos function).owner.imageId =
        changedRuntimeImageIds.contains function.owner.imageId := rfl
  have hrecountEntry (entry : SnapshotFunction) : changedRuntimeImageIds.contains
      (recountFunction index.liveFunctionInfos entry).owner.imageId =
        changedRuntimeImageIds.contains entry.owner.imageId := by
    rw [recountFunction_owner]
  have hid (semantic : LiveFunctionSemanticSnapshot) : changedRuntimeImageIds.contains
      (id semantic).owner.imageId = changedRuntimeImageIds.contains semantic.owner.imageId := rfl
  constructor
  · intro hexact function hmem himage
    by_contra hreported
    have hinfos := hexact.changedInfos
    rw [hmerged.infos, filter_kept_append hrecount _ hinfo, append_left_eq_self,
      map_eq_nil_iff, filter_eq_nil_iff] at hinfos
    refine hinfos function hmem ?_
    rw [contains_iff_mem.mpr himage, Bool.eq_false_iff.mpr hreported]
    rfl
  · intro hreported
    have hgone {owner : DartRuntimeOwnerIdentity} {ownerClassId ownerFunctionIndex : BitVec 32}
        (h : ∃ function ∈ base.liveFunctionInfos, owner = function.owner ∧
          ownerClassId = function.ownerClassId ∧
          ownerFunctionIndex = function.ownerFunctionIndex) :
        ¬(changedRuntimeImageIds.contains owner.imageId &&
          !slotReported delta.records ownerClassId ownerFunctionIndex) = true := by
      obtain ⟨function, hmem, rfl, rfl, rfl⟩ := h
      rw [Bool.and_eq_true, contains_iff_mem, Bool.not_eq_true']
      rintro ⟨himage, hnot⟩
      rw [hreported function hmem himage] at hnot
      cases hnot
    have hinfos : (base.liveFunctionInfos.filter fun function =>
        changedRuntimeImageIds.contains function.owner.imageId &&
          !slotReported delta.records function.ownerClassId function.ownerFunctionIndex) = [] :=
      filter_eq_nil_iff.mpr fun function hmem => hgone ⟨function, hmem, rfl, rfl, rfl⟩
    have hfunctions : (base.functions.filter fun function =>
        changedRuntimeImageIds.contains function.owner.imageId &&
          !slotReported delta.records function.ownerClassId function.ownerFunctionIndex) = [] := by
      refine filter_eq_nil_iff.mpr fun entry hmem => ?_
      rw [hrecords.flattened] at hmem
      obtain ⟨function, hfunction, hmem⟩ := mem_flatMap.mp hmem
      exact hgone ⟨function, hfunction, functionEntries_slot hmem⟩
    have hstale : (base.liveFunctionSemantics.filter fun semantic =>
        changedRuntimeImageIds.contains semantic.owner.imageId &&
          !slotReported delta.records semantic.ownerClassId semantic.ownerFunctionIndex) = [] := by
      refine filter_eq_nil_iff.mpr fun semantic hmem => ?_
      rw [hrecords.semantics] at hmem
      obtain ⟨record, hrecord, hsome⟩ := mem_filterMap.mp hmem
      unfold ObservedFunction.semantics at hsome
      split at hsome
      · obtain rfl := Option.some.inj hsome
        refine hgone ⟨record.function, ?_, rfl, rfl, rfl⟩
        rw [hrecords.infos]
        exact mem_map_of_mem hrecord
      · cases hsome
    refine ⟨?_, ?_, ?_, ?_, ?_, ?_, ?_, hpublished.flattened, ?_⟩
    · rw [hmerged.infos, filter_kept_append hrecount _ hinfo, hinfos]
      rfl
    · rw [hmerged.functions, filter_kept_append hrecountEntry _ hentry, hfunctions]
      rfl
    · rw [hsemantics, filter_kept_append hid _ hsemantic, hstale]
      rfl
    · rw [hmerged.infos, filter_not_kept_append hrecount _ hinfo, ← hmerged.infos]
    · rw [hmerged.functions, filter_not_kept_append hrecountEntry _ hentry]
    · rw [hsemantics, filter_not_kept_append hid _ hsemantic, map_id]
    · exact nodup_stableOwnerSlots (hmerged.slotKeys haccepted)
    · intro function hmem
      rw [hpublished.infos] at hmem
      obtain ⟨record, hrecord, rfl⟩ := mem_map.mp hmem
      exact functionEntries_kinds (hpublished.accepted record hrecord)

end Refresh

/-- An entry that is published has no heap receipt, and lies in the payload of the canonical record
that has it in its mask. -/
theorem published_entries {profiles : DirectoryProfiles} {index : SnapshotIndex}
    (h : Published profiles index) : index.functions =
        index.liveFunctionInfos.flatMap (functionEntries profiles index.vmProfileVersion) ∧
      ∀ function ∈ index.liveFunctionInfos, function.stripped = function ∧
        (functionEntries profiles index.vmProfileVersion function).map SnapshotFunction.entryKind =
          entryKinds.filter (fun kind => function.hasEntry kind) ∧
        ∀ entry ∈ functionEntries profiles index.vmProfileVersion function,
          entry.stripped = entry ∧ entry.entryVa ≠ 0 ∧ entry.codePayloadStart ≤ entry.codeEntry ∧
            entry.codeEntry < entry.codeEntry + entry.codeSize := by
  obtain ⟨records, hrecords⟩ := h.records
  refine ⟨hrecords.flattened, fun function hmem => ?_⟩
  rw [hrecords.infos] at hmem
  obtain ⟨record, hrecord, rfl⟩ := mem_map.mp hmem
  have haccepts := hrecords.accepted record hrecord
  have hstripped : record.function.stripped = record.function :=
    congrArg (fun record : ObservedFunction => record.function) (hrecords.stripped record hrecord)
  refine ⟨hstripped, functionEntries_kinds haccepts, fun entry hentry => ⟨?_, ?_⟩⟩
  · have hentries : functionEntries profiles index.vmProfileVersion record.function.stripped = _ :=
      functionEntries_stripped index.vmProfileVersion record.function
    rw [hstripped] at hentries
    exact (map_inj_left.mp (hentries.symm.trans (map_id _).symm)) entry hentry
  · unfold functionEntries at hentry
    simp only [acceptsFunction, Bool.and_eq_true, Option.any_eq_true] at haccepts
    obtain ⟨-, range, hrange, hinside⟩ := haccepts
    rw [hrange] at hentry
    obtain ⟨kind, hkind, rfl⟩ := mem_map.mp hentry
    have hlies := List.all_eq_true.mp hinside kind (mem_filter.mp hkind).1
    simp only [(mem_filter.mp hkind).2, Bool.not_true, Bool.false_or, Bool.and_eq_true, bne_iff_ne,
      decide_eq_true_eq] at hlies
    obtain ⟨⟨⟨-, hva⟩, hlow⟩, hhigh⟩ := hlies
    refine ⟨hva, hlow, ?_⟩
    change record.function.entryPoints.get kind <
      record.function.entryPoints.get kind + (range.end_ - record.function.entryPoints.get kind)
    rwa [BitVec.add_comm, BitVec.sub_add_cancel]

/-- The directory of the sample records, as it is published. -/
theorem published_sample : Published arm64Profiles
    (stabilizeLiveSnapshotIndexForPublication (sampleDirectory twoImageRecords)) :=
  @Published.built arm64Profiles arm64Profile arm64Profile
    (twoImageRecords.map ObservedFunction.toLiveVmFunctionSnapshotRecord) _ rfl

/-- The entries of the sample directory. -/
theorem published_entries_sample :
    (stabilizeLiveSnapshotIndexForPublication (sampleDirectory twoImageRecords)).functions =
      (stabilizeLiveSnapshotIndexForPublication
        (sampleDirectory twoImageRecords)).liveFunctionInfos.flatMap
          (functionEntries arm64Profiles arm64Profile.profileVersion) :=
  (published_entries published_sample).1

/-- The deferred unit is refreshed, and one function of it is observed in this slot. -/
def refreshSlot (slot : BitVec 32) :
    Except String (SnapshotIndex × DartPlantLiveVmFunctionIndexInfo) :=
  buildDeferredLiveSnapshotIndexIncrement arm64Profiles
    (stabilizeLiveSnapshotIndexForPublication (sampleDirectory twoImageRecords)) [2] arm64Profile
    arm64Profile
    (.ok ⟨[(observedFunction 2 slot 0x5000).toLiveVmFunctionSnapshotRecord], 0⟩) ⟨24, 3, 2, 1, 0⟩

theorem refreshSlot_ok (slot : BitVec 32) (h : (refreshSlot slot).toBool = true) :
    ∃ index indexInfo, refreshSlot slot = .ok (index, indexInfo) := by
  cases hrefresh : refreshSlot slot with
  | error message =>
    rw [hrefresh] at h
    cases h
  | ok result => exact ⟨result.1, result.2, rfl⟩

/-- The function of the deferred unit is observed again. -/
theorem refresh_exact_iff_observedAgain :
    ∃ index indexInfo, refreshSlot 0 = .ok (index, indexInfo) ∧
      NothingStale arm64Profiles arm64Profile
        (stabilizeLiveSnapshotIndexForPublication (sampleDirectory twoImageRecords)) [2]
        [(observedFunction 2 0 0x5000).toLiveVmFunctionSnapshotRecord] index := by
  obtain ⟨index, indexInfo, hrefresh⟩ := refreshSlot_ok 0 (by decide +kernel)
  exact ⟨index, indexInfo, hrefresh,
    (refresh_exact_iff published_sample hrefresh).mpr (by decide)⟩

/-- Another function of the deferred unit is observed, and the one that was there stays. -/
theorem unreported_slot_survives :
    ¬∀ (profiles : DirectoryProfiles) (functionTypeProfile liveIndexProfile : RuntimeProfileRecord)
        (base index : SnapshotIndex) (changedRuntimeImageIds : List RuntimeImageId)
        (delta : DeferredObservation) (baseInfo indexInfo : DartPlantLiveVmFunctionIndexInfo),
      Published profiles base →
      buildDeferredLiveSnapshotIndexIncrement profiles base changedRuntimeImageIds
        liveIndexProfile functionTypeProfile (.ok delta) baseInfo = .ok (index, indexInfo) →
      NothingStale profiles functionTypeProfile base changedRuntimeImageIds delta.records index := by
  intro hclaim
  obtain ⟨index, indexInfo, hrefresh⟩ := refreshSlot_ok 7 (by decide +kernel)
  have hexact := hclaim _ _ _ _ _ _ _ _ _ published_sample hrefresh
  have htwo : (refreshSlot 7).toOption.map (fun result =>
      (result.1.liveFunctionInfos.filter fun function =>
        ([2] : List RuntimeImageId).contains function.owner.imageId).length) = some 2 := by
    decide +kernel
  have hrefresh : refreshSlot 7 = .ok (index, indexInfo) := hrefresh
  rw [hrefresh] at htwo
  have hone := congrArg List.length hexact.changedInfos
  have htwo := hone.symm.trans (Option.some.inj htwo)
  cases htwo

end DartPlant
