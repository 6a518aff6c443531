import DartPlant.Core.Status

/-! # Runtime images

A runtime image is one mapped Dart instruction namespace: an ELF module together with the snapshot
symbol that gives its functions their coordinates.  Its numeric owner token, `(id, epoch)`, is not
part of what it physically is; `sameImageIdentity` compares only the module, the snapshot and the
place of the image in its program.
-/

namespace DartPlant

structure ExecutableRange where
  start : Address
  end_ : Address
  fileOffset : BitVec 64
  virtualAddress : BitVec 64
  fileSize : BitVec 64
  deriving DecidableEq, Repr

structure ModuleImage where
  name : String
  path : String
  buildId : String
  loadBias : Address
  executableRanges : List ExecutableRange
  deriving DecidableEq, Repr

/-- `ModuleImage::ContainsExecutable`. -/
def ModuleImage.containsExecutable (module : ModuleImage) (address : Address)
    (size : BitVec 64) : Bool :=
  if size = 0 ∨ address > BitVec.allOnes 64 - size then false
  else
    let end_ := address + size
    module.executableRanges.any fun range => address ≥ range.start && end_ ≤ range.end_

structure FlutterSnapshotSource where
  moduleName : String
  modulePath : String
  moduleBuildId : String
  snapshotHash : String
  snapshotFeatures : String
  profileName : String
  isolateInstructionsVa : BitVec 64
  isolateInstructionsSize : BitVec 64
  isolateInstructionsRuntime : Address
  compressedPointers : Bool
  deferredProgramHash : Option (BitVec 32)
  deriving DecidableEq, Repr

/-- `EqualsIgnoreCaseAscii`. -/
def equalsIgnoreCaseAscii (left right : String) : Bool :=
  left.toLower == right.toLower

/-- `FlutterSnapshotSource::Matches`. -/
def FlutterSnapshotSource.matches (snapshot : FlutterSnapshotSource) (module : ModuleImage) :
    Bool :=
  module.name == snapshot.moduleName && module.path == snapshot.modulePath &&
    equalsIgnoreCaseAscii module.buildId snapshot.moduleBuildId

inductive RuntimeImageKind where
  | root
  | deferred
  deriving DecidableEq, Repr

inductive RuntimeImageLifecycleState where
  | staged
  | active
  | draining
  | retired
  deriving DecidableEq, Repr

inductive RuntimeDeferredLoadState where
  | unbound
  | notLoaded
  | loaded
  deriving DecidableEq, Repr

abbrev RuntimeImageId := BitVec 64
abbrev kInvalidRuntimeImageId : RuntimeImageId := 0#64
abbrev RuntimeImageIncarnationEpoch := BitVec 64
abbrev kInvalidRuntimeImageIncarnationEpoch : RuntimeImageIncarnationEpoch := 0#64

/-- `DartRuntimeOwnerIdentity`, the receipt that owned records carry. -/
structure DartRuntimeOwnerIdentity where
  runtimeGeneration : BitVec 64
  engineIncarnationEpoch : BitVec 64
  isolateGroupIncarnationEpoch : BitVec 64
  imageId : RuntimeImageId
  imageIncarnationEpoch : RuntimeImageIncarnationEpoch
  deriving DecidableEq, Repr

structure RuntimeImage where
  id : RuntimeImageId := kInvalidRuntimeImageId
  incarnationEpoch : RuntimeImageIncarnationEpoch := kInvalidRuntimeImageIncarnationEpoch
  kind : RuntimeImageKind := .root
  loadingUnitId : BitVec 32 := 0
  runtimeGeneration : BitVec 64 := 0
  engineIncarnationEpoch : BitVec 64 := 0
  isolateGroupIncarnationEpoch : BitVec 64 := 0
  lifecycle : RuntimeImageLifecycleState := .staged
  liveEntryCount : BitVec 32 := 0
  deferredProgramHashVmBound : Bool := false
  deferredLoadState : RuntimeDeferredLoadState := .unbound
  module : ModuleImage
  snapshot : FlutterSnapshotSource
  deriving DecidableEq, Repr

/-- `RuntimeImage::OwnerIdentity`. -/
def RuntimeImage.ownerIdentity (image : RuntimeImage) : DartRuntimeOwnerIdentity where
  runtimeGeneration := image.runtimeGeneration
  engineIncarnationEpoch := image.engineIncarnationEpoch
  isolateGroupIncarnationEpoch := image.isolateGroupIncarnationEpoch
  imageId := image.id
  imageIncarnationEpoch := image.incarnationEpoch

def sameExecutableRange (left right : ExecutableRange) : Bool :=
  left.start == right.start && left.end_ == right.end_ && left.fileOffset == right.fileOffset &&
    left.virtualAddress == right.virtualAddress && left.fileSize == right.fileSize

def sameModule (left right : ModuleImage) : Bool :=
  left.name == right.name && left.path == right.path && left.buildId == right.buildId &&
    left.loadBias == right.loadBias &&
    left.executableRanges.length == right.executableRanges.length &&
    (left.executableRanges.zip right.executableRanges).all fun pair =>
      sameExecutableRange pair.1 pair.2

def sameSnapshot (left right : FlutterSnapshotSource) : Bool :=
  left.moduleName == right.moduleName && left.modulePath == right.modulePath &&
    left.moduleBuildId == right.moduleBuildId && left.snapshotHash == right.snapshotHash &&
    left.snapshotFeatures == right.snapshotFeatures && left.profileName == right.profileName &&
    left.isolateInstructionsVa == right.isolateInstructionsVa &&
    left.isolateInstructionsSize == right.isolateInstructionsSize &&
    left.isolateInstructionsRuntime == right.isolateInstructionsRuntime &&
    left.compressedPointers == right.compressedPointers &&
    left.deferredProgramHash == right.deferredProgramHash

def sameImageIdentity (left right : RuntimeImage) : Bool :=
  left.kind == right.kind && left.loadingUnitId == right.loadingUnitId &&
    sameModule left.module right.module && sameSnapshot left.snapshot right.snapshot

/-- The logical place of an image in its program. -/
def RuntimeImage.unit (image : RuntimeImage) : RuntimeImageKind × BitVec 32 :=
  (image.kind, image.loadingUnitId)

/-- What an image physically is. -/
def RuntimeImage.physical (image : RuntimeImage) :
    (RuntimeImageKind × BitVec 32) × ModuleImage × FlutterSnapshotSource :=
  (image.unit, image.module, image.snapshot)

/-! ## The comparisons decide equality -/

theorem sameExecutableRange_iff {left right : ExecutableRange} :
    sameExecutableRange left right = true ↔ left = right := by
  cases left
  cases right
  simp only [sameExecutableRange, Bool.and_eq_true, beq_iff_eq, ExecutableRange.mk.injEq,
    and_assoc]

theorem sameRanges_iff {left right : List ExecutableRange} :
    left.length = right.length ∧
      ((left.zip right).all fun pair => sameExecutableRange pair.1 pair.2) = true ↔
        left = right := by
  induction left generalizing right with
  | nil =>
    cases right with
    | nil => simp only [List.length_nil, List.zip_nil_left, List.all_nil, and_self]
    | cons range right =>
      simp only [List.length_nil, List.length_cons, List.zip_nil_left, List.all_nil, and_true,
        reduceCtorEq]
  | cons range left ih =>
    cases right with
    | nil =>
      simp only [List.length_nil, List.length_cons, reduceCtorEq, iff_false]
      exact fun h => nomatch h.1
    | cons other right =>
      simp only [List.length_cons, Nat.add_right_cancel_iff, List.zip_cons_cons, List.all_cons,
        Bool.and_eq_true, sameExecutableRange_iff, List.cons.injEq, ← ih]
      exact ⟨fun h => ⟨h.2.1, h.1, h.2.2⟩, fun h => ⟨h.2.1, h.1, h.2.2⟩⟩

theorem sameModule_iff {left right : ModuleImage} : sameModule left right = true ↔ left = right := by
  cases left
  cases right
  simp only [sameModule, Bool.and_eq_true, beq_iff_eq, ModuleImage.mk.injEq, and_assoc,
    sameRanges_iff]

theorem sameSnapshot_iff {left right : FlutterSnapshotSource} :
    sameSnapshot left right = true ↔ left = right := by
  cases left
  cases right
  simp only [sameSnapshot, Bool.and_eq_true, beq_iff_eq, FlutterSnapshotSource.mk.injEq, and_assoc]

/-- Two images have the same identity when they are physically the same. -/
theorem sameImageIdentity_iff {left right : RuntimeImage} :
    sameImageIdentity left right = true ↔ left.physical = right.physical := by
  simp only [sameImageIdentity, Bool.and_eq_true, beq_iff_eq, sameModule_iff, sameSnapshot_iff,
    RuntimeImage.physical, RuntimeImage.unit, Prod.mk.injEq, and_assoc]

end DartPlant
