import DartPlant.Lib.SharedLedger
import DartPlant.Runtime.Reconciliation

/-! # The lifecycle of published images

What a transition does to the images of a set besides their tokens: binding the owner epochs,
carrying over what an earlier observation established, and moving images from active to draining to
retired.  None of it changes what an image is or which tokens it has.
-/

namespace DartPlant
open SharedLedger

/-- The two tokens of an image. -/
def RuntimeImage.token (image : RuntimeImage) : RuntimeImageId × RuntimeImageIncarnationEpoch :=
  (image.id, image.incarnationEpoch)

/-- `RuntimeImage::ContainsRuntimeRange`. -/
def RuntimeImage.containsRuntimeRange (image : RuntimeImage) (address : Address)
    (size : BitVec 64) : Bool :=
  let start := image.snapshot.isolateInstructionsRuntime
  let offset := address - start
  if size = 0 ∨ start = 0 ∨ image.snapshot.isolateInstructionsSize = 0 ∨ address < start then false
  else decide (offset < image.snapshot.isolateInstructionsSize) &&
    decide (size ≤ image.snapshot.isolateInstructionsSize - offset) &&
    image.module.containsExecutable address size

/-- `SamePublishedOwner`. -/
def samePublishedOwner (left right : RuntimeImage) : Bool :=
  left.id == right.id && left.incarnationEpoch == right.incarnationEpoch &&
    left.runtimeGeneration == right.runtimeGeneration &&
    left.engineIncarnationEpoch == right.engineIncarnationEpoch &&
    left.isolateGroupIncarnationEpoch == right.isolateGroupIncarnationEpoch

namespace RuntimeImageSet

def bindGeneration (set : RuntimeImageSet) (runtimeGeneration : BitVec 64) : RuntimeImageSet :=
  { set with images := set.images.map fun image => { image with runtimeGeneration } }

def bindOwnerEpochs (set : RuntimeImageSet)
    (engineIncarnationEpoch isolateGroupIncarnationEpoch : BitVec 64) : RuntimeImageSet :=
  { set with images := set.images.map fun image =>
      { image with engineIncarnationEpoch, isolateGroupIncarnationEpoch } }

def activateAll (set : RuntimeImageSet) : RuntimeImageSet :=
  { set with images := set.images.map fun image => { image with lifecycle := .active } }

/-- What an image keeps from the previous set: the first image there with its owner and identity. -/
def preserveBindings (previous : List RuntimeImage) (image : RuntimeImage) : RuntimeImage :=
  match previous.find? fun old => samePublishedOwner image old && sameImageIdentity image old with
  | none => image
  | some found =>
    { image with
      liveEntryCount := found.liveEntryCount
      deferredProgramHashVmBound := found.deferredProgramHashVmBound
      deferredLoadState := found.deferredLoadState }

def preserveSemanticBindingsFrom (set previous : RuntimeImageSet) : RuntimeImageSet :=
  { set with images := set.images.map (preserveBindings previous.images) }

/-- The first image with these tokens. -/
def findToken (set : RuntimeImageSet)
    (token : RuntimeImageId × RuntimeImageIncarnationEpoch) : Option RuntimeImage :=
  set.images.find? fun image => image.token == token

/-- Move the first image with these tokens. -/
def setLifecycle (set : RuntimeImageSet) (lifecycle : RuntimeImageLifecycleState)
    (token : RuntimeImageId × RuntimeImageIncarnationEpoch) : RuntimeImageSet :=
  let update := fun image : RuntimeImage => { image with lifecycle }
  { set with images := alter RuntimeImage.token update token set.images }

/-- `BeginDrain`. -/
def beginDrain (set : RuntimeImageSet)
    (token : RuntimeImageId × RuntimeImageIncarnationEpoch) : RuntimeImageSet × Bool :=
  match set.findToken token with
  | none => (set, false)
  | some image =>
    if image.lifecycle = .retired then (set, false) else (set.setLifecycle .draining token, true)

/-- `Retire`; its callers ignore whether the image was found. -/
def retire (set : RuntimeImageSet)
    (token : RuntimeImageId × RuntimeImageIncarnationEpoch) : RuntimeImageSet :=
  set.setLifecycle .retired token

/-- The live entries of an image among the image ids of a directory's records; the counter stops at
`UINT32_MAX`. -/
def liveEntriesOf (imageIds : List RuntimeImageId) (id : RuntimeImageId) : BitVec 32 :=
  BitVec.ofNat 32 (min (imageIds.count id) 4294967295)

/-- `BindLiveEntries`: every id must be that of an image, and no two images of a set have one. -/
def bindLiveEntries (set : RuntimeImageSet) (imageIds : List RuntimeImageId) :
    Option RuntimeImageSet :=
  if imageIds.all fun id => id != kInvalidRuntimeImageId && set.images.any fun image => image.id == id
  then some { set with images := set.images.map fun image =>
      { image with liveEntryCount := liveEntriesOf imageIds image.id } }
  else none

end RuntimeImageSet

theorem samePublishedOwner_iff {left right : RuntimeImage} :
    samePublishedOwner left right = true ↔ left.ownerIdentity = right.ownerIdentity := by
  simp only [samePublishedOwner, Bool.and_eq_true, beq_iff_eq, RuntimeImage.ownerIdentity,
    DartRuntimeOwnerIdentity.mk.injEq]
  tauto

end DartPlant
