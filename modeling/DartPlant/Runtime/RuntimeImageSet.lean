import DartPlant.Runtime.RuntimeImage

/-! # The set of runtime images

`RuntimeImageSet` as the code has it: a vector of images, the id of the root among them, and the two
cursors from which logical ids and incarnation epochs are allocated.  The cursors are 64-bit words
and wrap to the invalid token.

A refresh builds a staged set from scratch, with its own cursors, and `reconcileOwnershipFrom`
rewrites every token of it against the published set.
-/

namespace DartPlant

structure RuntimeImageSet where
  nextId : RuntimeImageId := 1
  nextIncarnationEpoch : RuntimeImageIncarnationEpoch := 1
  rootId : RuntimeImageId := kInvalidRuntimeImageId
  images : List RuntimeImage := []
  deriving DecidableEq, Repr

/-- `RangesOverlap`; an empty or wrapping range overlaps everything. -/
def rangesOverlap (leftStart : Address) (leftSize : BitVec 64) (rightStart : Address)
    (rightSize : BitVec 64) : Bool :=
  if leftSize = 0 ∨ rightSize = 0 ∨ leftSize > BitVec.allOnes 64 - leftStart ∨
      rightSize > BitVec.allOnes 64 - rightStart then true
  else
    let leftEnd := leftStart + leftSize
    let rightEnd := rightStart + rightSize
    leftStart < rightEnd && rightStart < leftEnd

def compatibleWithRoot (root : RuntimeImage) (snapshot : FlutterSnapshotSource) : Bool :=
  snapshot.snapshotHash == root.snapshot.snapshotHash &&
    snapshot.snapshotFeatures == root.snapshot.snapshotFeatures &&
    snapshot.profileName == root.snapshot.profileName &&
    snapshot.compressedPointers == root.snapshot.compressedPointers

/-- The module and snapshot test that both kinds of image must pass.  A size is a 64-bit word, so
it never exceeds `SIZE_MAX`. -/
def consistentSource (module : ModuleImage) (snapshot : FlutterSnapshotSource) : Bool :=
  snapshot.matches module && snapshot.isolateInstructionsSize ≠ 0 &&
    module.containsExecutable snapshot.isolateInstructionsRuntime snapshot.isolateInstructionsSize

namespace RuntimeImageSet

def allocateId (set : RuntimeImageSet) : RuntimeImageSet × RuntimeImageId :=
  if set.nextId = kInvalidRuntimeImageId then (set, kInvalidRuntimeImageId)
  else ({ set with nextId := set.nextId + 1 }, set.nextId)

def allocateIncarnationEpoch (set : RuntimeImageSet) :
    RuntimeImageSet × RuntimeImageIncarnationEpoch :=
  if set.nextIncarnationEpoch = kInvalidRuntimeImageIncarnationEpoch then
    (set, kInvalidRuntimeImageIncarnationEpoch)
  else ({ set with nextIncarnationEpoch := set.nextIncarnationEpoch + 1 }, set.nextIncarnationEpoch)

def findById (set : RuntimeImageSet) (id : RuntimeImageId) : Option RuntimeImage :=
  if id = kInvalidRuntimeImageId then none
  else set.images.find? fun image => image.id == id

def root (set : RuntimeImageSet) : Option RuntimeImage := set.findById set.rootId

/-- The shared end of `SetRoot` and `AddDeferred`: two tokens and one more image. -/
def pushImage (set : RuntimeImageSet) (kind : RuntimeImageKind) (loadingUnitId : BitVec 32)
    (module : ModuleImage) (snapshot : FlutterSnapshotSource) (runtimeGeneration : BitVec 64) :
    RuntimeImageSet × Except String RuntimeImageId :=
  let (numbered, id) := set.allocateId
  let (allocated, incarnationEpoch) := numbered.allocateIncarnationEpoch
  if id = kInvalidRuntimeImageId ∨ incarnationEpoch = kInvalidRuntimeImageIncarnationEpoch then
    (allocated, .error "runtime image ownership id space is exhausted")
  else
    let image : RuntimeImage :=
      { id, incarnationEpoch, kind, loadingUnitId, runtimeGeneration, module, snapshot }
    ({ allocated with images := allocated.images ++ [image] }, .ok id)

/-- `SetRoot`.  `Clear` comes first, so nothing of the old set is left. -/
def setRoot (module : ModuleImage) (snapshot : FlutterSnapshotSource)
    (runtimeGeneration : BitVec 64) : RuntimeImageSet × Except String Unit :=
  if consistentSource module snapshot = false then
    ({}, .error "root runtime image has inconsistent module/snapshot identity")
  else
    match pushImage {} .root 1 module snapshot runtimeGeneration with
    | (set, .error message) => (set, .error message)
    | (set, .ok id) => ({ set with rootId := id }, .ok ())

/-- What an image already in the set has against a deferred one. -/
def deferredConflict (module : ModuleImage) (snapshot : FlutterSnapshotSource)
    (loadingUnitId : BitVec 32) (existing : RuntimeImage) : Option String :=
  if existing.loadingUnitId = loadingUnitId then some "deferred loading-unit id is ambiguous"
  else if sameModule existing.module module then
    some "one module incarnation cannot own multiple runtime images"
  else if rangesOverlap existing.snapshot.isolateInstructionsRuntime
      existing.snapshot.isolateInstructionsSize snapshot.isolateInstructionsRuntime
      snapshot.isolateInstructionsSize then
    some "runtime image instruction namespaces overlap"
  else if existing.kind = .deferred ∧
      existing.snapshot.deferredProgramHash ≠ snapshot.deferredProgramHash then
    some "deferred loading units disagree on Dart program hash"
  else none

def addDeferred (set : RuntimeImageSet) (module : ModuleImage) (snapshot : FlutterSnapshotSource)
    (loadingUnitId : BitVec 32) (runtimeGeneration : BitVec 64) :
    RuntimeImageSet × Except String Unit :=
  let incompatible := "deferred runtime image is incompatible with the root image"
  match set.root with
  | none => (set, .error incompatible)
  | some root =>
    if loadingUnitId ≤ 1 ∨ consistentSource module snapshot = false ∨
        compatibleWithRoot root snapshot = false ∨ snapshot.deferredProgramHash.isNone then
      (set, .error incompatible)
    else
      match set.images.findSome? (deferredConflict module snapshot loadingUnitId) with
      | some message => (set, .error message)
      | none =>
        match set.pushImage .deferred loadingUnitId module snapshot runtimeGeneration with
        | (pushed, .error message) => (pushed, .error message)
        | (pushed, .ok _) => (pushed, .ok ())

/-- The first loop of `ReconcileOwnershipFrom`: an exact survivor keeps both tokens, a replacement
in the same logical unit keeps its id, and a zero token is still to be allocated. -/
def inherit (previous : RuntimeImageSet) (image : RuntimeImage) : RuntimeImage :=
  match previous.images.find? (sameImageIdentity image) with
  | some exact => { image with id := exact.id, incarnationEpoch := exact.incarnationEpoch }
  | none =>
    let logical := previous.images.find? fun old =>
      image.kind == old.kind && image.loadingUnitId == old.loadingUnitId
    { image with
      id := (logical.map RuntimeImage.id).getD kInvalidRuntimeImageId
      incarnationEpoch := kInvalidRuntimeImageIncarnationEpoch }

/-- The second loop of `ReconcileOwnershipFrom`, with the cursors and the root id that it moves. -/
def assignTokens (nextId : RuntimeImageId) (nextEpoch : RuntimeImageIncarnationEpoch)
    (rootId : RuntimeImageId) : List RuntimeImage → RuntimeImageSet
  | [] => ⟨nextId, nextEpoch, rootId, []⟩
  | image :: rest =>
    let freshId := image.id = kInvalidRuntimeImageId
    let freshEpoch := image.incarnationEpoch = kInvalidRuntimeImageIncarnationEpoch
    let id := if freshId then nextId else image.id
    let incarnationEpoch := if freshEpoch then nextEpoch else image.incarnationEpoch
    let set := assignTokens (if freshId then nextId + 1 else nextId)
      (if freshEpoch then nextEpoch + 1 else nextEpoch)
      (if image.kind = .root then id else rootId) rest
    { set with images := { image with id, incarnationEpoch } :: set.images }

/-- The previous set's tokens are valid and below its cursors. -/
def tokensBelowCursors (previous : RuntimeImageSet) : Bool :=
  previous.images.all fun image =>
    image.id ≠ kInvalidRuntimeImageId && image.id < previous.nextId &&
      image.incarnationEpoch ≠ kInvalidRuntimeImageIncarnationEpoch &&
      image.incarnationEpoch < previous.nextIncarnationEpoch

/-- `ReconcileOwnershipFrom`: the rewritten set, and what the call returns. -/
def reconcileOwnershipFrom (set previous : RuntimeImageSet) : RuntimeImageSet × Bool :=
  if previous.nextId = kInvalidRuntimeImageId ∨
      previous.nextIncarnationEpoch = kInvalidRuntimeImageIncarnationEpoch then (set, false)
  else if previous.tokensBelowCursors = false then (set, false)
  else
    let assigned := assignTokens previous.nextId previous.nextIncarnationEpoch set.rootId
      (set.images.map previous.inherit)
    (assigned, assigned.images.isEmpty || assigned.rootId ≠ kInvalidRuntimeImageId)

end RuntimeImageSet

end DartPlant
