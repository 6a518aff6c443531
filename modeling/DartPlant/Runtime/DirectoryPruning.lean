import DartPlant.Runtime.DirectoryRecords
import DartPlant.Runtime.ImageOwnership

/-! # Pruning is rebuilding

A directory that loses the records of retired images is the directory that the surviving records
make by themselves: the same records in the same order, with aliases counted among the survivors.  A
prune that is refused leaves the directory and its counts as they were.
-/

namespace DartPlant
open List

/-- What is left of the caller's directory and counts. -/
structure PruneOutcome where
  pruned : Bool
  index : SnapshotIndex
  indexInfo : DartPlantLiveVmFunctionIndexInfo
  error : Option String
  deriving DecidableEq

/-- `canonical_counts`, with one more record counted for the retired image that owns it. -/
def countRetired (retiredImages : List RuntimeImage) (canonicalCounts : List (BitVec 32))
    (function : DartPlantLiveVmFunctionInfo) : Option (List (BitVec 32)) :=
  match retiredImageIndex retiredImages function.owner with
  | none => some canonicalCounts
  | some position =>
    if canonicalCounts.getD position 0 = BitVec.allOnes 32 then none
    else some (canonicalCounts.set position (canonicalCounts.getD position 0 + 1))

/-- `PruneStableLiveSnapshotIndexForImages`, on the caller's index and info. -/
def pruneInPlace (index : SnapshotIndex) (retiredImages : List RuntimeImage)
    (indexInfo : DartPlantLiveVmFunctionIndexInfo) : PruneOutcome :=
  let refused (message : String) : PruneOutcome := ⟨false, index, indexInfo, some message⟩
  if retiredImages = [] ∨ index.stableLiveDirectory = false ∨
      indexInfo.structSize < kLiveVmFunctionIndexInfoSize ∨
      indexInfo.functionCount ≠ index.liveFunctionInfos.length then
    refused "stable live Function prune input is invalid"
  else
    match index.liveFunctionInfos.foldlM (countRetired retiredImages)
        (List.replicate retiredImages.length 0) with
    | none => refused "stable live Function prune owner count overflowed"
    | some canonicalCounts =>
      if (canonicalCounts.zip retiredImages).all (fun (count, image) =>
          count == image.liveEntryCount) = false then
        refused "stable live Function prune disagrees with the retired image live-entry count"
      else
        let retired (owner : DartRuntimeOwnerIdentity) : Bool :=
          (retiredImageIndex retiredImages owner).isSome
        let pruned : SnapshotIndex := { index with
          liveFunctionInfos := index.liveFunctionInfos.filter fun function =>
            !retired function.owner
          functions := index.functions.filter fun function => !retired function.owner
          liveFunctionSemantics := index.liveFunctionSemantics.filter fun semantic =>
            !retired semantic.owner }
        if pruned.liveFunctionInfos = [] ∨ pruned.functions = [] then
          refused "stable live Function prune removed the entire directory"
        else
          match recomputeByMaps pruned indexInfo.skippedFunctionCount with
          | none => refused "stable live Function prune produced an invalid directory"
          | some (pruned, prunedInfo) => ⟨true, pruned, prunedInfo, none⟩

section Counting
variable {retiredImages : List RuntimeImage} {infos : List DartPlantLiveVmFunctionInfo}

/-- How many records the retired image at this position owns. -/
def ownedCount (retiredImages : List RuntimeImage) (infos : List DartPlantLiveVmFunctionInfo)
    (position : Nat) : Nat :=
  infos.countP fun function => retiredImageIndex retiredImages function.owner == some position

/-- The loop counts the records of every retired image, unless one has too many. -/
theorem countRetired_run (retiredImages : List RuntimeImage)
    (infos : List DartPlantLiveVmFunctionInfo) :
    (∀ counts, infos.foldlM (countRetired retiredImages)
        (List.replicate retiredImages.length 0) = some counts →
      counts.length = retiredImages.length ∧ ∀ position < retiredImages.length,
        (counts.getD position 0).toNat = ownedCount retiredImages infos position) ∧
    (infos.foldlM (countRetired retiredImages) (List.replicate retiredImages.length 0) = none →
      ∃ position < retiredImages.length,
        4294967295 < ownedCount retiredImages infos position) := by
  induction infos using List.reverseRecOn with
  | nil =>
    refine ⟨fun counts h => ?_, nofun⟩
    obtain rfl := Option.some.inj h
    refine ⟨length_replicate, fun position hposition => ?_⟩
    rw [getD_eq_getElem?_getD, List.getElem?_replicate_of_lt hposition]
    rfl
  | append_singleton infos function ih =>
    have hcount (position : Nat) : ownedCount retiredImages (infos ++ [function]) position =
        ownedCount retiredImages infos position +
          if retiredImageIndex retiredImages function.owner = some position then 1 else 0 := by
      unfold ownedCount
      rw [countP_append, countP_singleton]
      simp only [beq_iff_eq]
    have hconcat : (infos ++ [function]).foldlM (countRetired retiredImages)
        (List.replicate retiredImages.length 0) =
        (infos.foldlM (countRetired retiredImages) (List.replicate retiredImages.length 0)).bind
          fun counts => countRetired retiredImages counts function := by
      rw [foldlM_append]
      refine congrArg (Option.bind _) (funext fun counts => ?_)
      rw [foldlM_cons]
      exact Option.bind_fun_some _
    rw [hconcat]
    cases hbefore : infos.foldlM (countRetired retiredImages)
        (List.replicate retiredImages.length 0) with
    | none =>
      obtain ⟨position, hposition, hmany⟩ := ih.2 hbefore
      refine ⟨nofun, fun _ => ⟨position, hposition, ?_⟩⟩
      rw [hcount]
      omega
    | some before =>
      obtain ⟨hlength, hcounts⟩ := ih.1 before hbefore
      rw [Option.bind_some]
      unfold countRetired
      cases howner : retiredImageIndex retiredImages function.owner with
      | none =>
        refine ⟨fun counts h => ?_, nofun⟩
        obtain rfl := Option.some.inj h
        refine ⟨hlength, fun position hposition => ?_⟩
        rw [hcount, howner, if_neg nofun]
        exact hcounts position hposition
      | some owner =>
        have howned : owner < retiredImages.length := by
          obtain ⟨hlt, -⟩ := List.findIdx?_eq_some_iff_getElem.mp howner
          exact hlt
        have hself := hcounts owner howned
        dsimp only
        by_cases hfull : before.getD owner 0 = BitVec.allOnes 32
        · rw [if_pos hfull]
          refine ⟨nofun, fun _ => ⟨owner, howned, ?_⟩⟩
          rw [hcount, howner, if_pos rfl, ← hself, hfull]
          decide
        · rw [if_neg hfull]
          refine ⟨fun counts h => ?_, nofun⟩
          obtain rfl := Option.some.inj h
          refine ⟨length_set.trans hlength, fun position hposition => ?_⟩
          rw [hcount, howner]
          by_cases hsame : owner = position
          · subst hsame
            rw [if_pos rfl, ← hself, getD_eq_getElem?_getD,
              List.getElem?_set_self (by omega), Option.getD_some]
            have hne : (before.getD owner 0).toNat ≠ 4294967295 := fun h =>
              hfull (BitVec.eq_of_toNat_eq h)
            have hlt := (before.getD owner 0).isLt
            have hone : (1 : BitVec 32).toNat = 1 := rfl
            rw [BitVec.toNat_add, hone]
            exact Nat.mod_eq_of_lt (by omega)
          · rw [if_neg fun h => hsame (Option.some.inj h), getD_eq_getElem?_getD,
              List.getElem?_set_ne hsame, ← getD_eq_getElem?_getD]
            exact hcounts position hposition

/-- What the loop counted is compared with what the images say of themselves. -/
theorem countsAgree_eq {counts : List (BitVec 32)} (hlength : counts.length = retiredImages.length)
    (hcounts : ∀ position < retiredImages.length,
      (counts.getD position 0).toNat = ownedCount retiredImages infos position) :
    ((counts.zip retiredImages).all fun entry => entry.1 == entry.2.liveEntryCount) =
      retiredImages.zipIdx.all fun entry =>
        ownedCount retiredImages infos entry.2 == entry.1.liveEntryCount.toNat := by
  rw [Bool.eq_iff_iff, all_eq_true, all_eq_true]
  constructor
  · rintro h ⟨image, position⟩ hmem
    have himage := mem_zipIdx_iff_getElem?.mp hmem
    obtain ⟨hlt, -⟩ := List.getElem?_eq_some_iff.mp himage
    have hcount : counts[position]? = some (counts.getD position 0) := by
      rw [getD_eq_getElem?_getD, List.getElem?_eq_getElem (by omega), Option.getD_some]
    have hagree := h (counts.getD position 0, image)
      (mem_of_getElem? (List.getElem?_zip_eq_some.mpr ⟨hcount, himage⟩))
    rw [beq_iff_eq, ← hcounts position hlt]
    exact congrArg BitVec.toNat (beq_iff_eq.mp hagree)
  · rintro h ⟨count, image⟩ hmem
    obtain ⟨position, hpair⟩ := mem_iff_getElem?.mp hmem
    obtain ⟨hcount, himage⟩ := List.getElem?_zip_eq_some.mp hpair
    obtain ⟨hlt, -⟩ := List.getElem?_eq_some_iff.mp himage
    have hagree := h (image, position) (mem_zipIdx_iff_getElem?.mpr himage)
    rw [beq_iff_eq, ← hcounts position hlt, getD_eq_getElem?_getD, hcount] at hagree
    exact beq_iff_eq.mpr (BitVec.eq_of_toNat_eq hagree)

/-- An image with too many records does not agree with its own count. -/
theorem not_countsAgree_of_overflow {position : Nat} (hposition : position < retiredImages.length)
    (hmany : 4294967295 < ownedCount retiredImages infos position) :
    (retiredImages.zipIdx.all fun entry =>
      ownedCount retiredImages infos entry.2 == entry.1.liveEntryCount.toNat) = false := by
  rw [all_eq_false]
  refine ⟨(retiredImages[position], position),
    mem_zipIdx_iff_getElem?.mpr (List.getElem?_eq_getElem hposition), ?_⟩
  have hlt := retiredImages[position].liveEntryCount.isLt
  rw [beq_iff_eq]
  intro h
  dsimp only at h
  omega

end Counting

/-- Pruning in place is pruning a copy. -/
theorem pruneInPlace_eq (index : SnapshotIndex) (retiredImages : List RuntimeImage)
    (indexInfo : DartPlantLiveVmFunctionIndexInfo) :
    ∃ message, pruneInPlace index retiredImages indexInfo =
      match pruneStableLiveSnapshotIndexForImages index retiredImages indexInfo with
      | .ok (pruned, prunedInfo) => ⟨true, pruned, prunedInfo, none⟩
      | .error _ => ⟨false, index, indexInfo, some message⟩ := by
  have hkept (owner : DartRuntimeOwnerIdentity) :
      (!(retiredImageIndex retiredImages owner).isSome) =
        (retiredImageIndex retiredImages owner).isNone := by
    cases retiredImageIndex retiredImages owner <;> rfl
  have howned (position : Nat) : (index.liveFunctionInfos.countP fun function =>
      retiredImageIndex retiredImages function.owner == some position) =
        ownedCount retiredImages index.liveFunctionInfos position := rfl
  unfold pruneInPlace pruneStableLiveSnapshotIndexForImages
  simp only [hkept, howned, recomputeByMaps_eq]
  split
  · exact ⟨_, rfl⟩
  obtain ⟨hrun, hoverflow⟩ := countRetired_run retiredImages index.liveFunctionInfos
  split
  next hnone =>
    obtain ⟨position, hposition, hmany⟩ := hoverflow hnone
    rw [if_pos (not_countsAgree_of_overflow hposition hmany)]
    exact ⟨_, rfl⟩
  next counts hsome =>
    obtain ⟨hlength, hcounts⟩ := hrun counts hsome
    rw [countsAgree_eq hlength hcounts]
    split
    · exact ⟨_, rfl⟩
    split
    · exact ⟨_, rfl⟩
    split
    next hrecompute =>
      rw [hrecompute]
      exact ⟨_, rfl⟩
    next pruned prunedInfo hrecompute =>
      rw [hrecompute]
      exact ⟨"", rfl⟩

/-! ## What pruning leaves -/

/-- The owner is no retired image. -/
def survives (retiredImages : List RuntimeImage) (owner : DartRuntimeOwnerIdentity) : Bool :=
  decide (∀ image ∈ retiredImages, image.ownerIdentity ≠ owner)

theorem survives_eq (retiredImages : List RuntimeImage) (owner : DartRuntimeOwnerIdentity) :
    (retiredImageIndex retiredImages owner).isNone = survives retiredImages owner := by
  rw [Bool.eq_iff_iff, retiredImageIndex_isNone, survives, decide_eq_true_iff]

/-- The directory without the records of the retired images, counted from scratch. -/
structure PrunedTo (retiredImages : List RuntimeImage) (index : SnapshotIndex)
    (surviving : List DartPlantLiveVmFunctionInfo) (skippedFunctionCount : Nat)
    (pruned : SnapshotIndex) (prunedInfo : DartPlantLiveVmFunctionIndexInfo) : Prop where
  surviving_eq : surviving =
    index.liveFunctionInfos.filter fun function => survives retiredImages function.owner
  infos : pruned.liveFunctionInfos = surviving.map (recountInfo surviving)
  functions : pruned.functions = (index.functions.filter fun function =>
    survives retiredImages function.owner).map (recountFunction surviving)
  semantics : pruned.liveFunctionSemantics = index.liveFunctionSemantics.filter fun semantic =>
    survives retiredImages semantic.owner
  header : { pruned with
      liveFunctionInfos := index.liveFunctionInfos
      functions := index.functions
      liveFunctionSemantics := index.liveFunctionSemantics } = index
  counts : prunedInfo = aggregateCounts surviving skippedFunctionCount

section Pruning
variable {profiles : DirectoryProfiles} {records : List ObservedFunction}
  {index pruned : SnapshotIndex} {retiredImages : List RuntimeImage}
  {indexInfo prunedInfo : DartPlantLiveVmFunctionIndexInfo}

/-- The directory without the records of the retired images. -/
def SnapshotIndex.eraseRetired (index : SnapshotIndex) (retiredImages : List RuntimeImage) :
    SnapshotIndex :=
  index.erase (fun function => survives retiredImages function.owner)
    (fun function => survives retiredImages function.owner)
    fun semantic => survives retiredImages semantic.owner

theorem prune_eq_ok
    (h : pruneStableLiveSnapshotIndexForImages index retiredImages indexInfo =
      .ok (pruned, prunedInfo)) :
    pruned = (index.eraseRetired retiredImages).recount ∧
      prunedInfo = aggregateCounts (index.eraseRetired retiredImages).liveFunctionInfos
        indexInfo.skippedFunctionCount := by
  unfold pruneStableLiveSnapshotIndexForImages at h
  simp only [survives_eq] at h
  split at h
  · cases h
  split at h
  · cases h
  split at h
  · cases h
  split at h
  · cases h
  next result hrecompute =>
    obtain rfl := Except.ok.inj h
    exact recompute_eq_some hrecompute

theorem prunedTo_of_prune
    (h : pruneStableLiveSnapshotIndexForImages index retiredImages indexInfo =
      .ok (pruned, prunedInfo)) :
    PrunedTo retiredImages index (index.eraseRetired retiredImages).liveFunctionInfos
      indexInfo.skippedFunctionCount pruned prunedInfo := by
  obtain ⟨rfl, rfl⟩ := prune_eq_ok h
  exact ⟨rfl, rfl, rfl, rfl, rfl, rfl⟩

/-- What survives of a directory is what the surviving records make. -/
theorem RecordedBy.eraseRetired (h : RecordedBy profiles records index)
    (retiredImages : List RuntimeImage) :
    RecordedBy profiles
      (records.filter fun record => survives retiredImages record.function.owner)
      (index.eraseRetired retiredImages) :=
  h.erase (fun function => survives retiredImages function.owner) _ _ (fun _ _ _ => rfl)
    fun _ _ => rfl

end Pruning

theorem recordedBy_empty (profiles : DirectoryProfiles)
    (liveIndexProfile functionTypeProfile : RuntimeProfileRecord) :
    RecordedBy profiles [] (emptyDirectory profiles liveIndexProfile functionTypeProfile) :=
  ⟨rfl, nofun⟩

/-- Pruning a directory of appended records is building the directory of the surviving records: the
lists lose the records of the retired images and nothing else, every alias count and every total is
counted among the survivors, and appending the survivors afresh gives the same directory.  A refused
prune changes nothing. -/
theorem prune_rebuilds {profiles : DirectoryProfiles}
    {liveIndexProfile functionTypeProfile : RuntimeProfileRecord} {records : List ObservedFunction}
    {built : SnapshotIndex}
    (hbuilt : appendAll profiles liveIndexProfile
      (emptyDirectory profiles liveIndexProfile functionTypeProfile) records = some built)
    (retiredImages : List RuntimeImage) (indexInfo : DartPlantLiveVmFunctionIndexInfo) :
    let index := stabilizeLiveSnapshotIndexForPublication built
    let outcome := pruneInPlace index retiredImages indexInfo
    (outcome.pruned = true → ∃ surviving,
      PrunedTo retiredImages index surviving indexInfo.skippedFunctionCount outcome.index
        outcome.indexInfo ∧
      ∃ rebuilt, appendAll profiles liveIndexProfile
          (emptyDirectory profiles liveIndexProfile functionTypeProfile)
          (recounted (records.filter fun record => survives retiredImages record.function.owner)) =
            some rebuilt ∧
        outcome.index = stabilizeLiveSnapshotIndexForPublication rebuilt) ∧
    (outcome.pruned = false → outcome.index = index ∧ outcome.indexInfo = indexInfo) := by
  intro index outcome
  have hempty := recordedBy_empty profiles liveIndexProfile functionTypeProfile
  obtain ⟨haccepted, hsame⟩ := (hempty.appendAll_iff rfl).mp hbuilt
  rw [nil_append] at hsame
  have hrecorded : RecordedBy profiles records built := by
    subst hsame
    exact ⟨rfl, haccepted⟩
  obtain ⟨message, houtcome⟩ := pruneInPlace_eq index retiredImages indexInfo
  have houtcome : outcome = _ := houtcome
  rw [houtcome]
  cases hprune : pruneStableLiveSnapshotIndexForImages index retiredImages indexInfo with
  | error _ => exact ⟨nofun, fun _ => ⟨rfl, rfl⟩⟩
  | ok result =>
    obtain ⟨pruned, prunedInfo⟩ := result
    refine ⟨fun _ => ⟨_, prunedTo_of_prune hprune, ?_⟩, nofun⟩
    obtain ⟨hpruned, -⟩ := prune_eq_ok hprune
    have hsurviving := (hrecorded.stabilize.eraseRetired retiredImages).recount
    have hfresh : RecordedBy profiles
        (recounted (records.filter fun record => survives retiredImages record.function.owner))
        (directory profiles (emptyDirectory profiles liveIndexProfile functionTypeProfile)
          (recounted (records.filter fun record =>
            survives retiredImages record.function.owner))) := by
      refine ⟨rfl, fun record hmem => ?_⟩
      obtain ⟨before, hbefore, rfl⟩ := mem_map.mp hmem
      exact haccepted before (mem_filter.mp hbefore).1
    refine ⟨_, (hempty.appendAll_iff rfl).mpr ⟨hfresh.accepted, rfl⟩, ?_⟩
    have hrecords : recounted ((records.map ObservedFunction.stripped).filter fun record =>
        survives retiredImages record.function.owner) =
        (recounted (records.filter fun record =>
          survives retiredImages record.function.owner)).map ObservedFunction.stripped := by
      rw [← recounted_stripped, filter_map]
      rfl
    rw [hrecords] at hsurviving
    rw [nil_append, hpruned, hsurviving.lists, hfresh.stabilize.lists]
    subst hsame
    rfl

/-- The deferred unit of the sample records. -/
def deferredUnit : RuntimeImage where
  id := 2
  incarnationEpoch := 2
  kind := .deferred
  loadingUnitId := 2
  runtimeGeneration := 1
  engineIncarnationEpoch := 1
  isolateGroupIncarnationEpoch := 1
  liveEntryCount := 1
  module := mappedModule "part" 0x4000
  snapshot := mappedSnapshot "part" 0x4000 (some 7)

/-- The deferred unit is unloaded: the two functions of the root stay, and still share their code. -/
theorem prune_rebuilds_deferredUnit :
    let outcome := pruneInPlace
      (stabilizeLiveSnapshotIndexForPublication (sampleDirectory twoImageRecords)) [deferredUnit]
      ⟨24, 3, 2, 1, 0⟩
    outcome.pruned = true ∧ outcome.indexInfo = ⟨24, 2, 1, 1, 0⟩ ∧
      ∃ rebuilt, appendAll arm64Profiles arm64Profile
          (emptyDirectory arm64Profiles arm64Profile arm64Profile)
          (recounted (twoImageRecords.filter fun record =>
            survives [deferredUnit] record.function.owner)) = some rebuilt ∧
        outcome.index = stabilizeLiveSnapshotIndexForPublication rebuilt := by
  intro outcome
  have hbuilt : appendAll arm64Profiles arm64Profile
      (emptyDirectory arm64Profiles arm64Profile arm64Profile) twoImageRecords =
        some (sampleDirectory twoImageRecords) :=
    ((recordedBy_empty arm64Profiles arm64Profile arm64Profile).appendAll_iff rfl).mpr
      ⟨by decide, rfl⟩
  have hpruned : outcome.pruned = true := by
    decide +kernel
  obtain ⟨surviving, -, hrebuilt⟩ :=
    (prune_rebuilds hbuilt [deferredUnit] ⟨24, 3, 2, 1, 0⟩).1 hpruned
  exact ⟨hpruned, by decide +kernel, hrebuilt⟩

end DartPlant
