import DartPlant.Abi.RuntimeEvidence
import DartPlant.Runtime.StableDirectory

/-! # Publishing a staged image set

`TransitionRuntimeImages` closes admission to every old image that the staged set does not keep,
drains or retires its hooks, erases what the registries hold for it, and only then publishes the
staged set.  An image is kept when the staged set has one with the same published owner.

The hook registry is a parameter: the transition only calls it and looks at what it returns.
-/

namespace DartPlant

/-- The key of the entry target registry. -/
structure ImageAddressKey where
  owner : DartRuntimeOwnerIdentity
  address : Address
  deriving DecidableEq, Repr

/-- `DartEntryTargetRegistry`, as far as erasure looks at it. -/
structure DartEntryTargetRegistry where
  targets : List (ImageAddressKey × DartEntryTarget) := []
  payloads : List ImageAddressKey := []
  deriving DecidableEq, Repr

namespace DartEntryTargetRegistry

def clear (_ : DartEntryTargetRegistry) : DartEntryTargetRegistry := {}

/-- What `EraseImage` erases; epoch zero matches every incarnation. -/
def matchesImage (imageId : RuntimeImageId) (epoch : RuntimeImageIncarnationEpoch)
    (key : ImageAddressKey) : Bool :=
  key.owner.imageId == imageId && (epoch == 0 || key.owner.imageIncarnationEpoch == epoch)

def eraseImage (registry : DartEntryTargetRegistry) (imageId : RuntimeImageId)
    (epoch : RuntimeImageIncarnationEpoch) : DartEntryTargetRegistry where
  targets := registry.targets.filter fun target => !matchesImage imageId epoch target.1
  payloads := registry.payloads.filter fun key => !matchesImage imageId epoch key

end DartEntryTargetRegistry

/-- `EraseRuntimeAbiEvidenceForImage`; image id zero erases nothing. -/
def eraseRuntimeAbiEvidenceForImage (entries : List RuntimeAbiEvidenceEntry)
    (imageId : RuntimeImageId) (epoch : RuntimeImageIncarnationEpoch) :
    List RuntimeAbiEvidenceEntry :=
  if imageId = 0 then entries
  else entries.filter fun entry => !(entry.target.imageId == imageId &&
    (epoch == 0 || entry.target.owner.imageIncarnationEpoch == epoch))

/-- What a transition changes in its isolate group. -/
structure RuntimeImageState where
  imageSet : RuntimeImageSet := {}
  entryTargets : DartEntryTargetRegistry := {}
  abiEvidence : List RuntimeAbiEvidenceEntry := []
  liveSnapshotIndex : Option SnapshotIndex := none
  liveFunctionIndexInfo : DartPlantLiveVmFunctionIndexInfo := {}
  deriving DecidableEq, Repr

/-- The four calls a transition makes on the hooks `η` of its generation. -/
structure HookDrain (η : Type) where
  retireRuntimeHooks : η → η
  invalidateRuntimeHooks : η → η × Result Unit
  retireRuntimeImageHooks : RuntimeImageId → RuntimeImageIncarnationEpoch → η → η
  invalidateRuntimeImageHooks : RuntimeImageId → RuntimeImageIncarnationEpoch → η → η × Result Unit

/-- `MappingStillPresent`. -/
def mappingStillPresent (modules : List ModuleImage) (image : RuntimeImage) : Bool :=
  modules.any fun module => sameModule module image.module

/-- The old images that the staged set does not keep. -/
def affectedImages (current staged : RuntimeImageSet) (invalidateEntireRuntime : Bool) :
    List RuntimeImage :=
  current.images.filter fun old =>
    !(!invalidateEntireRuntime &&
      (staged.findById old.id).any fun replacement => samePublishedOwner old replacement)

/-- The loop that closes admission, and whether it got to its end. -/
def drainImages : RuntimeImageSet → List RuntimeImage → RuntimeImageSet × Bool
  | set, [] => (set, true)
  | set, image :: rest =>
    match set.beginDrain image.token with
    | (set, false) => (set, false)
    | (set, true) => drainImages set rest

section Transition
variable {η : Type}

/-- The hooks of a whole runtime that goes: retired only when no mapping is left. -/
def drainRuntime (drain : HookDrain η) (modules : List ModuleImage) (affected : List RuntimeImage)
    (hooks : η) : η × Result Unit :=
  if !affected.isEmpty && affected.all fun image => !mappingStillPresent modules image then
    (drain.retireRuntimeHooks hooks, .ok ())
  else drain.invalidateRuntimeHooks hooks

/-- The hooks of each affected image; the first error is the one returned. -/
def drainImageHooks (drain : HookDrain η) (modules : List ModuleImage) :
    List RuntimeImage → η × Result Unit → η × Result Unit
  | [], outcome => outcome
  | image :: rest, (hooks, status) =>
    drainImageHooks drain modules rest <|
      if mappingStillPresent modules image then
        let (hooks, result) := drain.invalidateRuntimeImageHooks image.id image.incarnationEpoch hooks
        (hooks, if status = .ok () then result else status)
      else (drain.retireRuntimeImageHooks image.id image.incarnationEpoch hooks, status)

/-- The registries after the hooks are drained. -/
def eraseAffected (group : RuntimeImageState) (affected : List RuntimeImage)
    (invalidateEntireRuntime : Bool) : RuntimeImageState :=
  if invalidateEntireRuntime then
    { group with entryTargets := group.entryTargets.clear, abiEvidence := [] }
  else
    affected.foldl (fun group image => { group with
      entryTargets := group.entryTargets.eraseImage image.id image.incarnationEpoch
      abiEvidence := eraseRuntimeAbiEvidenceForImage group.abiEvidence image.id
        image.incarnationEpoch }) group

/-- The pruned directory of a transition that only drops deferred images. -/
def prunedDirectory (group : RuntimeImageState) (affected : List RuntimeImage)
    (invalidateEntireRuntime : Bool) : Option (SnapshotIndex × DartPlantLiveVmFunctionIndexInfo) :=
  match group.liveSnapshotIndex with
  | none => none
  | some index =>
    if !invalidateEntireRuntime && !affected.isEmpty && index.stableLiveDirectory &&
        affected.all fun image => image.kind == .deferred then
      (pruneStableLiveSnapshotIndexForImages index affected group.liveFunctionIndexInfo).toOption
    else none

/-- The directory is kept as it is when no image is affected and it is stable. -/
def preserveStableDirectory (group : RuntimeImageState) (affected : List RuntimeImage)
    (invalidateEntireRuntime : Bool) : Bool :=
  !invalidateEntireRuntime && affected.isEmpty && group.liveSnapshotIndex.any fun index =>
    index.stableLiveDirectory &&
      decide (group.liveFunctionIndexInfo.structSize ≥ kLiveVmFunctionIndexInfoSize) &&
      group.liveFunctionIndexInfo.functionCount == index.liveFunctionInfos.length

/-- The staged set becomes the current one, with the directory that goes with it. -/
def publishStaged (group : RuntimeImageState) (staged : RuntimeImageSet)
    (affected : List RuntimeImage) (invalidateEntireRuntime : Bool) : RuntimeImageState :=
  let staged := staged.activateAll
  let bound := (prunedDirectory group affected invalidateEntireRuntime).bind fun pruned =>
    (bindStableLiveSnapshotImageSemantics pruned.1 staged).toOption.map fun rebound =>
      (rebound, pruned)
  match bound with
  | some (rebound, index, info) =>
    { group with imageSet := rebound, liveSnapshotIndex := some index, liveFunctionIndexInfo := info }
  | none =>
    if preserveStableDirectory group affected invalidateEntireRuntime then
      { group with imageSet := staged }
    else { group with imageSet := staged, liveSnapshotIndex := none, liveFunctionIndexInfo := {} }

/-- `TransitionRuntimeImages`. -/
def transitionRuntimeImages (drain : HookDrain η) (group : RuntimeImageState) (hooks : η)
    (staged : RuntimeImageSet) (modules : List ModuleImage) (invalidateEntireRuntime : Bool) :
    RuntimeImageState × η × Result Unit :=
  let affected := affectedImages group.imageSet staged invalidateEntireRuntime
  let staged := if invalidateEntireRuntime then staged
    else staged.preserveSemanticBindingsFrom group.imageSet
  match drainImages group.imageSet affected with
  | (imageSet, false) =>
    ({ group with imageSet }, hooks, .error ⟨.runtimeNotReady,
      "runtime image transition could not close old image admission"⟩)
  | (imageSet, true) =>
    let group := { group with imageSet }
    let drained := if invalidateEntireRuntime then drainRuntime drain modules affected hooks
      else drainImageHooks drain modules affected (hooks, .ok ())
    match drained with
    | (hooks, .error failure) => (group, hooks, .error failure)
    | (hooks, .ok ()) =>
      let group := eraseAffected group affected invalidateEntireRuntime
      let group := { group with
        imageSet := affected.foldl (fun set image => set.retire image.token) group.imageSet }
      (publishStaged group staged affected invalidateEntireRuntime, hooks, .ok ())

end Transition

end DartPlant
