import DartPlant.Runtime.ImageLifecycle
import DartPlant.Runtime.SnapshotIndex

/-! # The stable live directory

Once every movable heap receipt is stripped from a published directory, it can outlive the images
that come and go around it.  Pruning removes the records of retired images, recounts the aliases of
every entry, and refuses to leave an inconsistent or empty directory behind.
-/

namespace DartPlant
open List

structure DartPlantLiveVmFunctionIndexInfo where
  structSize : Nat := 0
  functionCount : Nat := 0
  codeTargetCount : Nat := 0
  sharedCodeTargetCount : Nat := 0
  skippedFunctionCount : Nat := 0
  deriving DecidableEq, Repr

/-- `sizeof(DartPlantLiveVmFunctionIndexInfo)`. -/
def kLiveVmFunctionIndexInfoSize : Nat := 24

/-- A counter that stops at `UINT32_MAX`. -/
def saturated (count : Nat) : BitVec 32 := BitVec.ofNat 32 (min count 4294967295)

def EntryFamily.get {α : Type} (family : EntryFamily α) : DartPlantEntryKind → α
  | .default => family.default
  | .unchecked => family.unchecked
  | .monomorphic => family.monomorphic
  | .monomorphicUnchecked => family.monomorphicUnchecked

def entryKinds : List DartPlantEntryKind :=
  [.default, .unchecked, .monomorphic, .monomorphicUnchecked]

/-- The bit of a kind in `entry_kind_mask`. -/
def DartPlantEntryKind.bit : DartPlantEntryKind → Nat
  | .default => 0
  | .unchecked => 1
  | .monomorphic => 2
  | .monomorphicUnchecked => 3

namespace DartPlantLiveVmFunctionInfo

/-- The function has an entry of this kind. -/
def hasEntry (function : DartPlantLiveVmFunctionInfo) (kind : DartPlantEntryKind) : Bool :=
  function.entryKindMask.getLsbD kind.bit

/-- `HasStableOwnerSlot`, with the slot. -/
def stableOwnerSlot (function : DartPlantLiveVmFunctionInfo) : Option (BitVec 32 × BitVec 32) :=
  if function.ownerClassId ≠ 0 ∧ function.ownerFunctionIndex ≠ 4294967295 then
    some (function.ownerClassId, function.ownerFunctionIndex)
  else none

end DartPlantLiveVmFunctionInfo

/-- `aliases_by_kind`: how many functions enter at this address. -/
def aliasesByKind (infos : List DartPlantLiveVmFunctionInfo) (kind : DartPlantEntryKind)
    (entry : Address) : Nat :=
  infos.countP fun function => function.hasEntry kind && function.entryPoints.get kind == entry

/-- The alias counts of one canonical record. -/
def recountInfo (infos : List DartPlantLiveVmFunctionInfo) (function : DartPlantLiveVmFunctionInfo) :
    DartPlantLiveVmFunctionInfo :=
  let count (kind : DartPlantEntryKind) : BitVec 32 :=
    if function.hasEntry kind then
      saturated (aliasesByKind infos kind (function.entryPoints.get kind))
    else 0
  { function with
    entryAliasCounts := ⟨count .default, count .unchecked, count .monomorphic,
      count .monomorphicUnchecked⟩
    entryAliasCount := count .default
    entryIsShared := decide (count .default > 1) }

/-- The alias count of one entry record. -/
def recountFunction (infos : List DartPlantLiveVmFunctionInfo) (function : SnapshotFunction) :
    SnapshotFunction :=
  if function.live then
    { function with
      entryAliasCount := saturated (aliasesByKind infos function.entryKind function.runtimeEntry) }
  else function

/-- `RecomputeLiveDirectoryAliasMetadata`. -/
def recomputeLiveDirectoryAliasMetadata (index : SnapshotIndex) (skippedFunctionCount : Nat) :
    Option (SnapshotIndex × DartPlantLiveVmFunctionIndexInfo) :=
  let infos := index.liveFunctionInfos
  let completeInfo (function : DartPlantLiveVmFunctionInfo) : Bool :=
    function.entryKindMask != 0 && entryKinds.all fun kind =>
      !function.hasEntry kind || function.entryPoints.get kind != 0
  let completeFunction (function : SnapshotFunction) : Bool :=
    !function.live || (function.runtimeEntry != 0 &&
      aliasesByKind infos function.entryKind function.runtimeEntry != 0)
  if infos.length > 4294967295 ∨ infos.all completeInfo = false ∨
      index.functions.all completeFunction = false then none
  else
    let defaultEntries := ((infos.filter fun function => function.hasEntry .default).map fun
      function => function.entryPoints.default).dedup
    some ({ index with
        liveFunctionInfos := infos.map (recountInfo infos)
        functions := index.functions.map (recountFunction infos) },
      { structSize := kLiveVmFunctionIndexInfoSize
        functionCount := infos.length
        codeTargetCount := defaultEntries.length
        sharedCodeTargetCount := defaultEntries.countP fun entry =>
          decide (aliasesByKind infos .default entry > 1)
        skippedFunctionCount := skippedFunctionCount })

/-- The retired image that owns a record. -/
def retiredImageIndex (retiredImages : List RuntimeImage) (owner : DartRuntimeOwnerIdentity) :
    Option Nat :=
  retiredImages.findIdx? fun image => image.ownerIdentity == owner

/-- `PruneStableLiveSnapshotIndexForImages`. -/
def pruneStableLiveSnapshotIndexForImages (index : SnapshotIndex)
    (retiredImages : List RuntimeImage) (indexInfo : DartPlantLiveVmFunctionIndexInfo) :
    Except String (SnapshotIndex × DartPlantLiveVmFunctionIndexInfo) :=
  let kept (owner : DartRuntimeOwnerIdentity) : Bool := (retiredImageIndex retiredImages owner).isNone
  let pruned : SnapshotIndex := { index with
    liveFunctionInfos := index.liveFunctionInfos.filter fun function => kept function.owner
    functions := index.functions.filter fun function => kept function.owner
    liveFunctionSemantics := index.liveFunctionSemantics.filter fun semantic => kept semantic.owner }
  if retiredImages = [] ∨ index.stableLiveDirectory = false ∨
      indexInfo.structSize < kLiveVmFunctionIndexInfoSize ∨
      indexInfo.functionCount ≠ index.liveFunctionInfos.length then
    .error "stable live Function prune input is invalid"
  -- A count that overflows its 32 bits cannot agree with the image's either.
  else if retiredImages.zipIdx.all (fun (image, position) =>
      (index.liveFunctionInfos.countP fun function =>
        retiredImageIndex retiredImages function.owner == some position) ==
          image.liveEntryCount.toNat) = false then
    .error "stable live Function prune disagrees with the retired image live-entry count"
  else if pruned.liveFunctionInfos = [] ∨ pruned.functions = [] then
    .error "stable live Function prune removed the entire directory"
  else
    match recomputeLiveDirectoryAliasMetadata pruned indexInfo.skippedFunctionCount with
    | none => .error "stable live Function prune produced an invalid directory"
    | some result => .ok result

/-- What `BindStableLiveSnapshotImageSemantics` asks of one record, with the slots seen before it. -/
def checkStableFunction (images : RuntimeImageSet) (slots : List (BitVec 32 × BitVec 32))
    (function : DartPlantLiveVmFunctionInfo) : Except String (List (BitVec 32 × BitVec 32)) :=
  if function.function ≠ 0 ∨ function.code ≠ 0 ∨ function.codeObjectPool ≠ 0 ∨
      function.ownerClass ≠ 0 ∨ function.library ≠ 0 ∨
      function.owner.imageId = kInvalidRuntimeImageId then
    .error "stable live Function directory has an invalid retained receipt"
  else if function.stableOwnerSlot.any (fun slot => slots.contains slot) = true then
    .error "stable live Function directory has a duplicate owner-slot receipt"
  else
    match images.findById function.owner.imageId with
    | none => .error "stable live Function directory crosses runtime image ownership"
    | some image =>
      if image.lifecycle ≠ .active ∨ function.loadingUnitId ≠ image.loadingUnitId ∨
          function.owner ≠ image.ownerIdentity then
        .error "stable live Function directory crosses runtime image ownership"
      else if entryKinds.all (fun kind => !function.hasEntry kind ||
          image.containsRuntimeRange (function.entryPoints.get kind) 4) = false then
        .error "stable live Function directory entry escaped its runtime image"
      else .ok (function.stableOwnerSlot.toList ++ slots)

/-- `BindStableLiveSnapshotImageSemantics`. -/
def bindStableLiveSnapshotImageSemantics (index : SnapshotIndex) (currentImages : RuntimeImageSet) :
    Except String RuntimeImageSet :=
  if index.stableLiveDirectory = false ∨ currentImages.images = [] then
    .error "stable live image semantic input is invalid"
  else
    match index.liveFunctionInfos.foldlM (checkStableFunction currentImages) [] with
    | .error message => .error message
    | .ok _ =>
      match currentImages.bindLiveEntries
          (index.liveFunctionInfos.map fun function => function.owner.imageId) with
      | none => .error "stable live Function directory references an unknown runtime image"
      | some rebound => .ok rebound

/-! ## Owners of a directory -/

/-- Everything the directory says about an image. -/
def SnapshotIndex.owners (index : SnapshotIndex) : List DartRuntimeOwnerIdentity :=
  index.liveFunctionInfos.map DartPlantLiveVmFunctionInfo.owner ++
    index.functions.map SnapshotFunction.owner ++
    index.liveFunctionSemantics.map LiveFunctionSemanticSnapshot.owner

/-- The directory's live entries of an image. -/
def SnapshotIndex.liveEntriesOf (index : SnapshotIndex) (id : RuntimeImageId) : BitVec 32 :=
  RuntimeImageSet.liveEntriesOf
    (index.liveFunctionInfos.map fun function => function.owner.imageId) id

@[simp] theorem recountInfo_owner (infos : List DartPlantLiveVmFunctionInfo)
    (function : DartPlantLiveVmFunctionInfo) :
    (recountInfo infos function).owner = function.owner := rfl

@[simp] theorem recountFunction_owner (infos : List DartPlantLiveVmFunctionInfo)
    (function : SnapshotFunction) : (recountFunction infos function).owner = function.owner := by
  unfold recountFunction
  split <;> rfl

/-- Recounting aliases moves no record to another owner. -/
theorem recompute_owners {index recounted : SnapshotIndex} {skipped : Nat}
    {info : DartPlantLiveVmFunctionIndexInfo}
    (h : recomputeLiveDirectoryAliasMetadata index skipped = some (recounted, info)) :
    recounted.owners = index.owners ∧
      recounted.liveFunctionInfos.map (fun function => function.owner.imageId) =
        index.liveFunctionInfos.map fun function => function.owner.imageId := by
  unfold recomputeLiveDirectoryAliasMetadata at h
  dsimp only at h
  split at h
  · cases h
  · obtain ⟨rfl, -⟩ := Prod.mk.inj (Option.some.inj h)
    refine ⟨?_, ?_⟩
    · simp only [SnapshotIndex.owners, map_map, Function.comp_def, recountInfo_owner,
        recountFunction_owner]
    · simp only [map_map, Function.comp_def, recountInfo_owner]

theorem retiredImageIndex_isNone {retiredImages : List RuntimeImage}
    {owner : DartRuntimeOwnerIdentity} :
    (retiredImageIndex retiredImages owner).isNone = true ↔
      ∀ image ∈ retiredImages, image.ownerIdentity ≠ owner := by
  rw [retiredImageIndex, Option.isNone_iff_eq_none, List.findIdx?_eq_none_iff]
  simp only [beq_eq_false_iff_ne, ne_eq]

/-- Pruning keeps exactly the records that no retired image owns. -/
theorem prune_owners {index pruned : SnapshotIndex} {retiredImages : List RuntimeImage}
    {info info' : DartPlantLiveVmFunctionIndexInfo}
    (h : pruneStableLiveSnapshotIndexForImages index retiredImages info = .ok (pruned, info')) :
    (∀ owner ∈ pruned.owners, owner ∈ index.owners ∧
      ∀ image ∈ retiredImages, image.ownerIdentity ≠ owner) ∧
    pruned.liveFunctionInfos.map (fun function => function.owner.imageId) =
      (index.liveFunctionInfos.filter fun function =>
        (retiredImageIndex retiredImages function.owner).isNone).map fun function =>
          function.owner.imageId := by
  unfold pruneStableLiveSnapshotIndexForImages at h
  dsimp only at h
  split at h
  · cases h
  split at h
  · cases h
  split at h
  · cases h
  split at h
  · cases h
  next result hrecompute =>
    obtain rfl := Except.ok.inj h
    obtain ⟨howners, hids⟩ := recompute_owners hrecompute
    refine ⟨fun owner howner => ?_, hids⟩
    rw [howners] at howner
    rcases mem_append.mp howner with howner | howner
    · rcases mem_append.mp howner with howner | howner
      · obtain ⟨function, hmem, rfl⟩ := mem_map.mp howner
        obtain ⟨hmem, hkept⟩ := mem_filter.mp hmem
        exact ⟨mem_append_left _ (mem_append_left _ (mem_map_of_mem hmem)),
          retiredImageIndex_isNone.mp hkept⟩
      · obtain ⟨function, hmem, rfl⟩ := mem_map.mp howner
        obtain ⟨hmem, hkept⟩ := mem_filter.mp hmem
        exact ⟨mem_append_left _ (mem_append_right _ (mem_map_of_mem hmem)),
          retiredImageIndex_isNone.mp hkept⟩
    · obtain ⟨semantic, hmem, rfl⟩ := mem_map.mp howner
      obtain ⟨hmem, hkept⟩ := mem_filter.mp hmem
      exact ⟨mem_append_right _ (mem_map_of_mem hmem),
        retiredImageIndex_isNone.mp hkept⟩

/-- Binding the directory only sets the live-entry counts, to its own. -/
theorem bindStable_images {index : SnapshotIndex} {currentImages rebound : RuntimeImageSet}
    (h : bindStableLiveSnapshotImageSemantics index currentImages = .ok rebound) :
    rebound = { currentImages with images := currentImages.images.map fun image =>
      { image with liveEntryCount := index.liveEntriesOf image.id } } := by
  unfold bindStableLiveSnapshotImageSemantics at h
  split at h
  · cases h
  split at h
  · cases h
  · unfold RuntimeImageSet.bindLiveEntries at h
    split at h
    · cases h
    next hbind =>
      split at hbind
      · obtain rfl := Option.some.inj hbind
        exact (Except.ok.inj h).symm
      · cases hbind

end DartPlant
