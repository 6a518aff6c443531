import DartPlant.Runtime.DirectoryRecords
import DartPlant.Runtime.TransitionOwnership

/-! # Reuse of a published directory

A refresh keeps the live directory it has when every record of it still belongs to an active image
of the set, and every image has the live entries that the directory says.  A directory that can be
extended may besides leave images out that have been added since.

The two validators and the binding read the same records in different ways.  What they have in
common is the image of a record, which is why a reused directory binds to the set it was bound to.
-/

namespace DartPlant
open RuntimeImageSet List

/-! ## The validators -/

/-- The image that owns a record, if it is active and is still the one that the record names. -/
def recordImage (images : RuntimeImageSet) (owner : DartRuntimeOwnerIdentity) :
    Option RuntimeImage :=
  match images.findById owner.imageId with
  | none => none
  | some image =>
    if image.lifecycle ≠ .active ∨ owner ≠ image.ownerIdentity then none else some image

def reusableInfo (images : RuntimeImageSet) (function : DartPlantLiveVmFunctionInfo) : Bool :=
  if function.function ≠ 0 ∨ function.code ≠ 0 ∨ function.codeObjectPool ≠ 0 ∨
      function.ownerClass ≠ 0 ∨ function.library ≠ 0 ∨ function.entryKindMask = 0 ∨
      function.codeSize = 0 ∨ function.owner.imageId = kInvalidRuntimeImageId then false
  else (recordImage images function.owner).any fun image =>
    function.loadingUnitId == image.loadingUnitId && entryKinds.all fun kind =>
      !function.hasEntry kind || image.containsRuntimeRange (function.entryPoints.get kind) 4

def reusableFunction (images : RuntimeImageSet) (function : SnapshotFunction) : Bool :=
  if function.functionObject ≠ 0 ∨ function.codeObject ≠ 0 ∨ function.codeObjectPool ≠ 0 ∨
      function.ownerClass ≠ 0 ∨ function.library ≠ 0 ∨ function.live = false ∨
      function.runtimeEntry = 0 ∨ function.codePayloadStart = 0 ∨
      function.codeInstructionsLength = 0 ∨ function.owner.imageId = kInvalidRuntimeImageId then
    false
  else (recordImage images function.owner).any fun image =>
    function.loadingUnitId == image.loadingUnitId &&
      image.containsRuntimeRange function.runtimeEntry 4 &&
      image.containsRuntimeRange function.codePayloadStart
        (function.codeInstructionsLength.setWidth 64)

def reusableSemantic (functionTypeProfile : RuntimeProfileRecord) (images : RuntimeImageSet)
    (semantic : LiveFunctionSemanticSnapshot) : Bool :=
  (recordImage images semantic.owner).isSome &&
    semantic.functionTypeProfileVersion == functionTypeProfile.profileVersion &&
    semantic.functionTypeAbiKey == functionTypeProfile.functionTypeAbiKey

/-- `live_counts`, whose counters wrap. -/
def liveCount (infos : List DartPlantLiveVmFunctionInfo) (id : RuntimeImageId) : BitVec 32 :=
  BitVec.ofNat 32 (infos.countP fun function => function.owner.imageId == id)

def reusableImage (allowUnboundDeferredAdditions : Bool) (infos : List DartPlantLiveVmFunctionInfo)
    (image : RuntimeImage) : Bool :=
  if image.lifecycle ≠ .active ∨ liveCount infos image.id ≠ image.liveEntryCount then false
  else if image.kind ≠ .deferred then true
  else if image.deferredProgramHashVmBound = true ∧ image.deferredLoadState ≠ .unbound then true
  else allowUnboundDeferredAdditions && liveCount infos image.id == 0 &&
    image.liveEntryCount == 0 && !image.deferredProgramHashVmBound &&
    image.deferredLoadState == .unbound

/-- What is asked of a directory whatever the images are.  `function_count` has 32 bits. -/
def reusableHeader (profiles : DirectoryProfiles)
    (liveIndexProfile functionTypeProfile : RuntimeProfileRecord) (index : SnapshotIndex)
    (indexInfo : DartPlantLiveVmFunctionIndexInfo) : Bool :=
  index.stableLiveDirectory && !index.functions.isEmpty && !index.liveFunctionInfos.isEmpty &&
    decide (kLiveVmFunctionIndexInfoSize ≤ indexInfo.structSize) &&
    indexInfo.functionCount % 2 ^ 32 == index.liveFunctionInfos.length &&
    index.vmProfileVersion == liveIndexProfile.profileVersion &&
    index.liveIndexAbiKey == profiles.liveIndexAbiKey liveIndexProfile &&
    index.functionTypeAbiKey == functionTypeProfile.functionTypeAbiKey

section Validators
variable (profiles : DirectoryProfiles) (liveIndexProfile functionTypeProfile : RuntimeProfileRecord)
  (indexInfo : DartPlantLiveVmFunctionIndexInfo) (index : SnapshotIndex) (images : RuntimeImageSet)

/-- `ValidateReusableLiveSnapshotIndex`. -/
def validateReusableLiveSnapshotIndex (allowUnboundDeferredAdditions : Bool) : Bool :=
  reusableHeader profiles liveIndexProfile functionTypeProfile index indexInfo &&
    !images.images.isEmpty &&
    index.liveFunctionInfos.all (reusableInfo images) &&
    index.functions.all (reusableFunction images) &&
    index.liveFunctionSemantics.all (reusableSemantic functionTypeProfile images) &&
    images.images.all (reusableImage allowUnboundDeferredAdditions index.liveFunctionInfos)

/-- `CanReuseLiveSnapshotIndex`. -/
def canReuseLiveSnapshotIndex : Bool :=
  validateReusableLiveSnapshotIndex profiles liveIndexProfile functionTypeProfile indexInfo index
    images false

/-- `CanExtendLiveSnapshotIndex`. -/
def canExtendLiveSnapshotIndex : Bool :=
  validateReusableLiveSnapshotIndex profiles liveIndexProfile functionTypeProfile indexInfo index
    images true

end Validators

/-- What a validator has found. -/
structure Reusable (profiles : DirectoryProfiles)
    (liveIndexProfile functionTypeProfile : RuntimeProfileRecord)
    (indexInfo : DartPlantLiveVmFunctionIndexInfo) (index : SnapshotIndex)
    (images : RuntimeImageSet) (allow : Bool) : Prop where
  header : reusableHeader profiles liveIndexProfile functionTypeProfile index indexInfo = true
  nonempty : images.images ≠ []
  infos : ∀ function ∈ index.liveFunctionInfos, reusableInfo images function = true
  functions : ∀ function ∈ index.functions, reusableFunction images function = true
  semantics : ∀ semantic ∈ index.liveFunctionSemantics,
    reusableSemantic functionTypeProfile images semantic = true
  images : ∀ image ∈ images.images, reusableImage allow index.liveFunctionInfos image = true

section Reuse
variable {profiles : DirectoryProfiles} {liveIndexProfile functionTypeProfile : RuntimeProfileRecord}
  {indexInfo : DartPlantLiveVmFunctionIndexInfo} {index : SnapshotIndex}
  {images images' : RuntimeImageSet} {allow : Bool}

theorem validate_iff :
    validateReusableLiveSnapshotIndex profiles liveIndexProfile functionTypeProfile indexInfo index
        images allow = true ↔
      Reusable profiles liveIndexProfile functionTypeProfile indexInfo index images allow := by
  simp only [validateReusableLiveSnapshotIndex, Bool.and_eq_true, all_eq_true,
    Bool.not_eq_true', isEmpty_eq_false_iff]
  constructor
  · rintro ⟨⟨⟨⟨⟨hheader, hne⟩, hinfos⟩, hfunctions⟩, hsemantics⟩, himages⟩
    exact ⟨hheader, hne, hinfos, hfunctions, hsemantics, himages⟩
  · intro h
    exact ⟨⟨⟨⟨⟨h.header, h.nonempty⟩, h.infos⟩, h.functions⟩, h.semantics⟩, h.images⟩

/-! ## The image of a record -/

theorem recordImage_eq_some {owner : DartRuntimeOwnerIdentity} {image : RuntimeImage}
    (h : recordImage images owner = some image) :
    images.findById owner.imageId = some image ∧ image.lifecycle = .active ∧
      owner = image.ownerIdentity := by
  unfold recordImage at h
  split at h
  · cases h
  next found hfound =>
    split at h
    · cases h
    next hguard =>
      obtain rfl := Option.some.inj h
      obtain ⟨hactive, howner⟩ := not_or.mp hguard
      exact ⟨hfound, not_not.mp hactive, not_not.mp howner⟩

/-- What `FindById` finds is an image of the set with that id, which is valid. -/
theorem findById_eq_some {id : RuntimeImageId} {image : RuntimeImage}
    (h : images.findById id = some image) :
    image ∈ images.images ∧ image.id = id ∧ id ≠ kInvalidRuntimeImageId := by
  unfold findById at h
  split at h
  · cases h
  next hid =>
    exact ⟨mem_of_find?_eq_some h, beq_iff_eq.mp (List.find?_some
      (p := fun image : RuntimeImage => image.id == id) h), hid⟩

/-- Where ids are distinct, an active image of the set is the one of its records. -/
theorem recordImage_of_mem (hids : (images.images.map RuntimeImage.id).Nodup) {image : RuntimeImage}
    (himage : image ∈ images.images) (hactive : image.lifecycle = .active)
    (hid : image.id ≠ kInvalidRuntimeImageId) :
    recordImage images image.ownerIdentity = some image := by
  have hfind : images.findById image.ownerIdentity.imageId = some image :=
    findById_of_mem hids himage hid
  rw [recordImage, hfind]
  exact if_neg (not_or.mpr ⟨not_not.mpr hactive, not_not.mpr rfl⟩)

theorem reusableInfo_image {function : DartPlantLiveVmFunctionInfo}
    (h : reusableInfo images function = true) :
    ∃ image, recordImage images function.owner = some image ∧
      function.loadingUnitId = image.loadingUnitId ∧ (entryKinds.all fun kind =>
        !function.hasEntry kind ||
          image.containsRuntimeRange (function.entryPoints.get kind) 4) = true := by
  unfold reusableInfo at h
  split at h
  · cases h
  · cases hrecord : recordImage images function.owner with
    | none =>
      rw [hrecord] at h
      cases h
    | some image =>
      rw [hrecord, Option.any_some, Bool.and_eq_true, beq_iff_eq] at h
      exact ⟨image, rfl, h⟩

section
variable (h : Reusable profiles liveIndexProfile functionTypeProfile indexInfo index images allow)
include h

/-- Every record of a reusable directory belongs to an image of the set. -/
theorem Reusable.owner {owner : DartRuntimeOwnerIdentity} (howner : owner ∈ index.owners) :
    ∃ image, recordImage images owner = some image := by
  rcases mem_append.mp howner with howner | howner
  · rcases mem_append.mp howner with howner | howner
    · obtain ⟨function, hmem, rfl⟩ := mem_map.mp howner
      obtain ⟨image, himage, -⟩ := reusableInfo_image (h.infos function hmem)
      exact ⟨image, himage⟩
    · obtain ⟨function, hmem, rfl⟩ := mem_map.mp howner
      have hfunction := h.functions function hmem
      unfold reusableFunction at hfunction
      split at hfunction
      · cases hfunction
      · cases hrecord : recordImage images function.owner with
        | none =>
          rw [hrecord] at hfunction
          cases hfunction
        | some image => exact ⟨image, rfl⟩
  · obtain ⟨semantic, hmem, rfl⟩ := mem_map.mp howner
    have hsemantic := h.semantics semantic hmem
    simp only [reusableSemantic, Bool.and_eq_true] at hsemantic
    exact Option.isSome_iff_exists.mp hsemantic.1.1

/-- What a set says of a record depends on the image of the record only. -/
theorem Reusable.transfer (hrecords : ∀ owner image, recordImage images owner = some image →
      recordImage images' owner = some image) (hne : images'.images ≠ []) {allow' : Bool}
    (himages : ∀ image ∈ images'.images,
      reusableImage allow' index.liveFunctionInfos image = true) :
    Reusable profiles liveIndexProfile functionTypeProfile indexInfo index images' allow' where
  header := h.header
  nonempty := hne
  infos := by
    intro function hmem
    have hfunction := h.infos function hmem
    obtain ⟨image, himage, -⟩ := reusableInfo_image hfunction
    rw [reusableInfo, himage] at hfunction
    rw [reusableInfo, hrecords _ _ himage]
    exact hfunction
  functions := by
    intro function hmem
    have hfunction := h.functions function hmem
    obtain ⟨image, himage⟩ := h.owner (mem_append_left _ (mem_append_right _
      (mem_map_of_mem hmem)))
    rw [reusableFunction, himage] at hfunction
    rw [reusableFunction, hrecords _ _ himage]
    exact hfunction
  semantics := by
    intro semantic hmem
    have hsemantic := h.semantics semantic hmem
    obtain ⟨image, himage⟩ := h.owner (mem_append_right _ (mem_map_of_mem hmem))
    rw [reusableSemantic, himage] at hsemantic
    rw [reusableSemantic, hrecords _ _ himage]
    exact hsemantic
  images := himages

omit h in
theorem Reusable.extend (h : Reusable profiles liveIndexProfile functionTypeProfile indexInfo index
    images false) :
    Reusable profiles liveIndexProfile functionTypeProfile indexInfo index images true := by
  refine h.transfer (fun _ _ himage => himage) h.nonempty fun image himage => ?_
  have hreusable := h.images image himage
  simp only [reusableImage, Bool.false_and] at hreusable ⊢
  split at hreusable
  · cases hreusable
  next hguard =>
    rw [if_neg hguard]
    split at hreusable
    next hroot => exact if_pos hroot
    next hdeferred =>
      rw [if_neg hdeferred]
      split at hreusable
      next hbound => exact if_pos hbound
      next => cases hreusable

/-- The live entries of every image are those that the directory has of it. -/
theorem Reusable.liveEntries {image : RuntimeImage} (himage : image ∈ images.images) :
    image.lifecycle = .active ∧
      image.liveEntryCount = liveCount index.liveFunctionInfos image.id := by
  have hreusable := h.images image himage
  unfold reusableImage at hreusable
  split at hreusable
  · cases hreusable
  next hguard =>
    obtain ⟨hactive, hcount⟩ := not_or.mp hguard
    exact ⟨not_not.mp hactive, (not_not.mp hcount).symm⟩

/-- As many functions as there can be are counted without wrapping. -/
theorem Reusable.liveCount_eq (id : RuntimeImageId) :
    liveCount index.liveFunctionInfos id = index.liveEntriesOf id := by
  have hheader := h.header
  simp only [reusableHeader, Bool.and_eq_true, beq_iff_eq] at hheader
  have hlength : index.liveFunctionInfos.length < 2 ^ 32 := by
    rw [← hheader.1.1.1.2]
    exact Nat.mod_lt _ (by decide)
  have hcount : index.liveFunctionInfos.countP (fun function => function.owner.imageId == id) ≤
      index.liveFunctionInfos.length := countP_le_length
  rw [SnapshotIndex.liveEntriesOf, liveEntriesOf, count_eq_countP,
    countP_map, Nat.min_eq_left]
  · rfl
  · exact Nat.le_of_lt_succ (Nat.lt_of_le_of_lt hcount hlength)

/-! ## Binding a reusable directory -/

omit h in
/-- What binding accepts of a record for one set it accepts for every set that the record could be
reused with. -/
theorem checkStableFunction_reusable {slots slots' : List (BitVec 32 × BitVec 32)}
    {function : DartPlantLiveVmFunctionInfo}
    (h : checkStableFunction images slots function = .ok slots')
    (hreusable : reusableInfo images' function = true) :
    checkStableFunction images' slots function = .ok slots' := by
  obtain ⟨image, himage, hunit, hentries⟩ := reusableInfo_image hreusable
  obtain ⟨hfind, hactive, howner⟩ := recordImage_eq_some himage
  unfold checkStableFunction at h ⊢
  split at h
  · cases h
  next hreceipts =>
    rw [if_neg hreceipts]
    split at h
    · cases h
    next hslot =>
      rw [if_neg hslot, hfind]
      dsimp only
      rw [if_neg (by simp [hactive, hunit, howner]), hentries, if_neg nofun]
      split at h
      · cases h
      split at h
      · cases h
      split at h
      · cases h
      · exact h

omit h in
/-- The slots are distinct whatever the images are. -/
theorem foldlM_checkStable {infos : List DartPlantLiveVmFunctionInfo}
    {slots slots' : List (BitVec 32 × BitVec 32)}
    (h : infos.foldlM (checkStableFunction images) slots = .ok slots')
    (hreusable : ∀ function ∈ infos, reusableInfo images' function = true) :
    infos.foldlM (checkStableFunction images') slots = .ok slots' := by
  induction infos generalizing slots with
  | nil => exact h
  | cons function infos ih =>
    rw [foldlM_cons] at h ⊢
    cases hcheck : checkStableFunction images slots function with
    | error message =>
      rw [hcheck] at h
      cases h
    | ok next =>
      rw [hcheck] at h
      rw [checkStableFunction_reusable hcheck (hreusable function mem_cons_self)]
      exact ih h fun other hother => hreusable other (mem_cons_of_mem _ hother)

/-- A directory that has been bound once and can be reused binds to the set as it is. -/
theorem Reusable.bind {published bound : RuntimeImageSet}
    (haccepted : bindStableLiveSnapshotImageSemantics index published = .ok bound) :
    bindStableLiveSnapshotImageSemantics index images = .ok images := by
  have hids : images.bindLiveEntries
      (index.liveFunctionInfos.map fun function => function.owner.imageId) = some images := by
    unfold bindLiveEntries
    rw [if_pos]
    · have hsame : (images.images.map fun image => { image with
          liveEntryCount := liveEntriesOf
            (index.liveFunctionInfos.map fun function => function.owner.imageId) image.id }) =
          images.images := by
        refine (map_congr_left fun image himage => ?_).trans (map_id _)
        have hcount := (h.liveEntries himage).2.trans (h.liveCount_eq image.id)
        rw [← SnapshotIndex.liveEntriesOf, ← hcount]
        rfl
      rw [hsame]
    · simp only [all_eq_true, mem_map, Bool.and_eq_true, bne_iff_ne, any_eq_true,
        beq_iff_eq]
      rintro id ⟨function, hmem, rfl⟩
      obtain ⟨image, himage, -⟩ := reusableInfo_image (h.infos function hmem)
      obtain ⟨himage, hid, hvalid⟩ := findById_eq_some (recordImage_eq_some himage).1
      exact ⟨hvalid, image, himage, hid⟩
  unfold bindStableLiveSnapshotImageSemantics at haccepted ⊢
  split at haccepted
  · cases haccepted
  next hinput =>
    rw [if_neg (not_or.mpr ⟨(not_or.mp hinput).1, h.nonempty⟩)]
    split at haccepted
    · cases haccepted
    next slots hslots =>
      rw [foldlM_checkStable hslots h.infos]
      dsimp only
      rw [hids]

end

/-! ## The next set -/

/-- An image that a transition publishes, with what the old set knows of it. -/
def carried (published : RuntimeImageSet) (image : RuntimeImage) : RuntimeImage :=
  { preserveBindings published.images image with lifecycle := .active }

/-- The staged set once it has taken over the bindings and is active. -/
def activated (published staged : RuntimeImageSet) : RuntimeImageSet :=
  (staged.preserveSemanticBindingsFrom published).activateAll

/-- The staged set has the image, under its owner. -/
def StillThere (staged : RuntimeImageSet) (old : RuntimeImage) : Prop :=
  ∃ image ∈ staged.images, image.ownerIdentity = old.ownerIdentity ∧ image.physical = old.physical

/-- A deferred image as it is added: it has no owner in the old set, and nothing is bound to it. -/
structure NewlyAdded (published : RuntimeImageSet) (image : RuntimeImage) : Prop where
  unknown : ∀ old ∈ published.images, image.ownerIdentity ≠ old.ownerIdentity
  deferred : image.kind = .deferred
  entries : image.liveEntryCount = 0
  hash : image.deferredProgramHashVmBound = false
  load : image.deferredLoadState = .unbound

/-- The staged set has all the old images, and beyond them only newly added ones. -/
structure Grown (published staged : RuntimeImageSet) : Prop where
  kept : ∀ old ∈ published.images, StillThere staged old
  others : ∀ image ∈ staged.images, NewlyAdded published image ∨ ∃ old ∈ published.images,
    image.ownerIdentity = old.ownerIdentity ∧ image.physical = old.physical
  added : ∃ image ∈ staged.images, NewlyAdded published image

/-- A record of the directory or a live-entry count refers to the image id. -/
def Referred (index : SnapshotIndex) (published activated : RuntimeImageSet) (id : RuntimeImageId) :
    Prop :=
  (∃ owner ∈ index.owners, owner.imageId = id) ∨
    ∃ image ∈ published.images ++ activated.images, image.id = id ∧ image.liveEntryCount ≠ 0

section Staged
variable {published staged : RuntimeImageSet} {image old : RuntimeImage}

theorem carried_owner (published : RuntimeImageSet) (image : RuntimeImage) :
    (carried published image).ownerIdentity = image.ownerIdentity :=
  preserveBindings_owner published.images image

theorem mem_activated : image ∈ (activated published staged).images ↔
    ∃ raw ∈ staged.images, carried published raw = image := by
  simp only [activated, activateAll, preserveSemanticBindingsFrom,
    map_map, mem_map]
  rfl

theorem activated_ids (h : Reconciled published staged) :
    ((activated published staged).images.map RuntimeImage.id).Nodup := by
  have heq : (activated published staged).images.map RuntimeImage.id =
      staged.images.map RuntimeImage.id := by
    simp only [activated, activateAll, preserveSemanticBindingsFrom,
      map_map]
    refine map_congr_left fun image _ => ?_
    exact congrArg DartRuntimeOwnerIdentity.imageId (carried_owner published image)
  rw [heq]
  exact h.ids

/-- An active image that is kept is published as it was. -/
theorem carried_kept (hp : WellNumbered published) (hold : old ∈ published.images)
    (hactive : old.lifecycle = .active) (howner : image.ownerIdentity = old.ownerIdentity)
    (hsame : image.physical = old.physical) : carried published image = old := by
  rw [carried, preserveBindings_eq hp hold howner hsame]
  simp only [RuntimeImage.ownerIdentity, DartRuntimeOwnerIdentity.mk.injEq] at howner
  simp only [RuntimeImage.physical, RuntimeImage.unit, Prod.mk.injEq] at hsame
  cases image
  cases old
  simp_all

/-- Nothing is carried over to a new image. -/
theorem carried_added (h : NewlyAdded published image) :
    carried published image = { image with lifecycle := .active } := by
  unfold carried preserveBindings
  cases hfind : published.images.find? fun old =>
      samePublishedOwner image old && sameImageIdentity image old with
  | none => rfl
  | some old =>
    have hboth := List.find?_some (p := fun old => samePublishedOwner image old &&
      sameImageIdentity image old) hfind
    exact absurd (samePublishedOwner_iff.mp (Bool.and_eq_true_iff.mp hboth).1)
      (h.unknown old (mem_of_find?_eq_some hfind))

/-- A new image can be extended over, and not reused, when the directory has nothing of it. -/
theorem NewlyAdded.reusable (h : NewlyAdded published image)
    {infos : List DartPlantLiveVmFunctionInfo} (hcount : liveCount infos image.id = 0) :
    reusableImage allow infos (carried published image) = allow := by
  rw [carried_added h]
  simp [reusableImage, hcount, h.deferred, h.entries, h.hash, h.load]

end Staged

/-- A record of the published set whose image is kept belongs to the same image of the next set. -/
theorem recordImage_kept {published staged : RuntimeImageSet} (hp : WellNumbered published)
    (hstaged : Reconciled published staged) {owner : DartRuntimeOwnerIdentity} {old : RuntimeImage}
    (hrecord : recordImage published owner = some old) (hkept : StillThere staged old) :
    recordImage (activated published staged) owner = some old := by
  obtain ⟨hfind, hactive, rfl⟩ := recordImage_eq_some hrecord
  obtain ⟨hold, -, hvalid⟩ := findById_eq_some hfind
  obtain ⟨image, himage, howner, hsame⟩ := hkept
  exact recordImage_of_mem (activated_ids hstaged)
    (mem_activated.mpr ⟨image, himage, carried_kept hp hold hactive howner hsame⟩) hactive hvalid

/-- A directory that could be reused can be extended over new images, and not reused with them. -/
theorem Reusable.grown {published staged : RuntimeImageSet}
    (h : Reusable profiles liveIndexProfile functionTypeProfile indexInfo index published false)
    (hp : WellNumbered published) (hstaged : Reconciled published staged)
    (hgrown : Grown published staged) :
    Reusable profiles liveIndexProfile functionTypeProfile indexInfo index
        (activated published staged) true ∧
      ¬ Reusable profiles liveIndexProfile functionTypeProfile indexInfo index
        (activated published staged) false := by
  have hrecords : ∀ owner image, recordImage published owner = some image →
      recordImage (activated published staged) owner = some image := by
    intro owner image hrecord
    have hold := (findById_eq_some (recordImage_eq_some hrecord).1).1
    exact recordImage_kept hp hstaged hrecord (hgrown.kept image hold)
  -- The records are of kept images, whose ids no new image has.
  have hcount : ∀ image ∈ staged.images, NewlyAdded published image →
      liveCount index.liveFunctionInfos image.id = 0 := by
    intro image himage hadded
    have hnone : index.liveFunctionInfos.countP
        (fun function => function.owner.imageId == image.id) = 0 := by
      refine countP_eq_zero.mpr fun function hmem hid => ?_
      obtain ⟨old, hrecord, -⟩ := reusableInfo_image (h.infos function hmem)
      have hafter := hrecords _ _ hrecord
      obtain ⟨hfind, -, -⟩ := recordImage_eq_some hafter
      obtain ⟨hold, holdId, -⟩ := findById_eq_some hfind
      have hcarried : (carried published image).id = image.id :=
        congrArg DartRuntimeOwnerIdentity.imageId (carried_owner published image)
      have heq : carried published image = old :=
        inj_on_of_nodup_map (activated_ids hstaged) (mem_activated.mpr ⟨image, himage, rfl⟩)
          hold (hcarried.trans ((beq_iff_eq.mp hid).symm.trans holdId.symm))
      have hpublished := (findById_eq_some (recordImage_eq_some hrecord).1).1
      refine hadded.unknown old hpublished ?_
      rw [← heq, carried_owner]
    rw [liveCount, hnone]
    rfl
  constructor
  · refine h.transfer hrecords ?_ fun image himage => ?_
    · obtain ⟨image, himage, -⟩ := hgrown.added
      exact ne_nil_of_mem (mem_activated.mpr ⟨image, himage, rfl⟩)
    · obtain ⟨raw, hraw, rfl⟩ := mem_activated.mp himage
      obtain hadded | ⟨old, hold, howner, hsame⟩ := hgrown.others raw hraw
      · exact hadded.reusable (hcount raw hraw hadded)
      · rw [carried_kept hp hold (h.liveEntries hold).1 howner hsame]
        exact h.extend.images old hold
  · intro hreusable
    obtain ⟨image, himage, hadded⟩ := hgrown.added
    have hfalse := hreusable.images _ (mem_activated.mpr ⟨image, himage, rfl⟩)
    rw [hadded.reusable (hcount image himage hadded)] at hfalse
    cases hfalse

/-- A live-entry count that is not zero is that of a record. -/
theorem Reusable.counted (h : Reusable profiles liveIndexProfile functionTypeProfile indexInfo index
      images allow) {image : RuntimeImage} (himage : image ∈ images.images)
    (hcount : image.liveEntryCount ≠ 0) : ∃ owner ∈ index.owners, owner.imageId = image.id := by
  rw [(h.liveEntries himage).2, liveCount] at hcount
  have hpositive : 0 < index.liveFunctionInfos.countP
      (fun function => function.owner.imageId == image.id) :=
    Nat.pos_of_ne_zero fun hzero => hcount (by rw [hzero]; rfl)
  obtain ⟨function, hmem, hid⟩ := countP_pos_iff.mp hpositive
  exact ⟨function.owner, mem_append_left _ (mem_append_left _
    (mem_map_of_mem hmem)), beq_iff_eq.mp hid⟩

/-- A directory that refers to an image that is not kept can be neither reused nor extended. -/
theorem Reusable.lost {published staged : RuntimeImageSet}
    (h : Reusable profiles liveIndexProfile functionTypeProfile indexInfo index published false)
    (hp : WellNumbered published) (hstaged : Reconciled published staged) {old : RuntimeImage}
    (hold : old ∈ published.images) (hlost : ¬ StillThere staged old)
    (hreferred : Referred index published (activated published staged) old.id) :
    ¬ Reusable profiles liveIndexProfile functionTypeProfile indexInfo index
      (activated published staged) allow := by
  intro hafter
  have howned : ∃ owner ∈ index.owners, owner.imageId = old.id := by
    obtain howned | ⟨image, himage, hid, hcount⟩ := hreferred
    · exact howned
    · rw [← hid]
      obtain himage | himage := mem_append.mp himage
      · exact h.counted himage hcount
      · exact hafter.counted himage hcount
  obtain ⟨owner, howner, hid⟩ := howned
  obtain ⟨before, hbefore⟩ := h.owner howner
  obtain ⟨hfind, -, hsame⟩ := recordImage_eq_some hbefore
  obtain ⟨hmem, hbeforeId, -⟩ := findById_eq_some hfind
  obtain rfl := inj_on_of_nodup_map hp.ids.nodup hmem hold (hbeforeId.trans hid)
  obtain ⟨image, himage⟩ := hafter.owner howner
  obtain ⟨hfind', -, hsame'⟩ := recordImage_eq_some himage
  obtain ⟨raw, hraw, rfl⟩ := mem_activated.mp (findById_eq_some hfind').1
  have hraw' : raw.ownerIdentity = before.ownerIdentity := by
    rw [← carried_owner published raw, ← hsame', hsame]
  refine hlost ⟨raw, hraw, hraw', hstaged.denotes before hold raw hraw ?_⟩
  exact Prod.ext (congrArg DartRuntimeOwnerIdentity.imageId hraw')
    (congrArg DartRuntimeOwnerIdentity.imageIncarnationEpoch hraw')

end Reuse

/-- Reusing a directory that has been bound is binding it to a set that stays as it is.  One that
can be reused can be extended.  After a transition that only adds deferred images it can be extended
and no longer reused; and it can be neither once an image that it refers to has gone. -/
theorem reuse_is_rebind (profiles : DirectoryProfiles)
    (liveIndexProfile functionTypeProfile : RuntimeProfileRecord)
    (indexInfo : DartPlantLiveVmFunctionIndexInfo) (index : SnapshotIndex)
    (accepted bound : RuntimeImageSet)
    (haccepted : bindStableLiveSnapshotImageSemantics index accepted = .ok bound) :
    let canReuse := canReuseLiveSnapshotIndex profiles liveIndexProfile functionTypeProfile
      indexInfo index
    let canExtend := canExtendLiveSnapshotIndex profiles liveIndexProfile functionTypeProfile
      indexInfo index
    (∀ images, canReuse images = true →
      bindStableLiveSnapshotImageSemantics index images = .ok images ∧ canExtend images = true) ∧
    ∀ published staged, WellNumbered published → StagedFor published staged →
      canReuse published = true →
        (Grown published staged → canExtend (activated published staged) = true ∧
          canReuse (activated published staged) = false) ∧
        ∀ old ∈ published.images, ¬ StillThere staged old →
          Referred index published (activated published staged) old.id →
            canReuse (activated published staged) = false ∧
              canExtend (activated published staged) = false := by
  intro canReuse canExtend
  refine ⟨fun images hreuse => ?_, fun published staged hp hstaged hreuse => ?_⟩
  · have hreusable := validate_iff.mp hreuse
    exact ⟨hreusable.bind haccepted, validate_iff.mpr hreusable.extend⟩
  · have hreusable := validate_iff.mp hreuse
    have hreconciled := hstaged.reconciled hp hreusable.nonempty
    refine ⟨fun hgrown => ?_, fun old hold hlost hreferred => ?_⟩
    · obtain ⟨hextend, hnot⟩ := hreusable.grown hp hreconciled hgrown
      exact ⟨validate_iff.mpr hextend, Bool.eq_false_iff.mpr fun h => hnot (validate_iff.mp h)⟩
    · have hnot : ∀ allow, ¬ Reusable profiles liveIndexProfile functionTypeProfile indexInfo index
          (activated published staged) allow :=
        fun allow => hreusable.lost hp hreconciled hold hlost hreferred
      exact ⟨Bool.eq_false_iff.mpr fun h => hnot _ (validate_iff.mp h),
        Bool.eq_false_iff.mpr fun h => hnot _ (validate_iff.mp h)⟩

/-- The directory of the root's only function. -/
def rootDirectory : SnapshotIndex where
  stableLiveDirectory := true
  functions := [{ rootFunction with
    loadingUnitId := 1, codePayloadStart := 0x1000, codeInstructionsLength := 0x20 }]
  liveFunctionInfos := [{ liveFunction 1 1 0x1000 with codeSize := 0x20 }]
  liveFunctionSemantics := []
  vmProfileVersion := 1
  liveIndexAbiKey := "live-index"
  functionTypeAbiKey := "function-type"

/-- The root is published alone, and discovered again with its deferred unit. -/
def unitDiscovered : RuntimeImageSet :=
  ((discovered.reconciled (withoutUnit 1)).bindGeneration 1).bindOwnerEpochs 1 1

theorem withoutUnit_numbered : WellNumbered (withoutUnit 1) := by
  have h := liveImages_numbered 1
  have hsub : (withoutUnit 1).images.Sublist (liveImages 1).images := eraseP_sublist
  exact ⟨h.units.sublist (hsub.map _),
    ⟨h.ids.positive, h.ids.nodup.sublist (hsub.map _), fun image hmem =>
      h.ids.range image (hsub.mem hmem)⟩,
    ⟨h.epochs.positive, h.epochs.nodup.sublist (hsub.map _), fun image hmem =>
      h.epochs.range image (hsub.mem hmem)⟩⟩

theorem unitDiscovered_staged : StagedFor (withoutUnit 1) unitDiscovered := by
  have hunits : ([(.root, 1), (.deferred, 2)] : List (RuntimeImageKind × BitVec 32)).Nodup := by
    decide
  exact .refreshed discovered (discovered.reconciled (withoutUnit 1)) 1 1 1
    ⟨hunits, fun _ => by decide⟩ (by decide +kernel) (by decide +kernel) (by decide +kernel)

theorem reuse_is_rebind_unit :
    let canReuse := canReuseLiveSnapshotIndex arm64Profiles arm64Profile arm64Profile
      ⟨kLiveVmFunctionIndexInfoSize, 1, 1, 0, 0⟩ rootDirectory
    let canExtend := canExtendLiveSnapshotIndex arm64Profiles arm64Profile arm64Profile
      ⟨kLiveVmFunctionIndexInfoSize, 1, 1, 0, 0⟩ rootDirectory
    (bindStableLiveSnapshotImageSemantics rootDirectory (withoutUnit 1) = .ok (withoutUnit 1) ∧
        canExtend (withoutUnit 1) = true) ∧
      (canExtend (activated (withoutUnit 1) unitDiscovered) = true ∧
        canReuse (activated (withoutUnit 1) unitDiscovered) = false) ∧
      let rebound := ((withoutUnit 1).bindGeneration 2).bindOwnerEpochs 1 1
      canReuse (activated (withoutUnit 1) rebound) = false ∧
        canExtend (activated (withoutUnit 1) rebound) = false := by
  have hreuse : canReuseLiveSnapshotIndex arm64Profiles arm64Profile arm64Profile
      ⟨kLiveVmFunctionIndexInfoSize, 1, 1, 0, 0⟩ rootDirectory (withoutUnit 1) = true := by
    decide +kernel
  obtain ⟨hbind, htransition⟩ := reuse_is_rebind arm64Profiles arm64Profile arm64Profile
    ⟨kLiveVmFunctionIndexInfoSize, 1, 1, 0, 0⟩ rootDirectory (withoutUnit 1) (withoutUnit 1)
    (by decide +kernel)
  refine ⟨hbind _ hreuse, ?_, ?_⟩
  · refine (htransition _ _ withoutUnit_numbered unitDiscovered_staged hreuse).1 ⟨?_, ?_, ?_⟩
    · unfold StillThere
      decide +kernel
    · intro image himage
      obtain rfl | himage := mem_cons.mp himage
      · refine Or.inr ⟨_, mem_cons_self, ?_⟩
        decide +kernel
      · obtain rfl := mem_singleton.mp himage
        refine Or.inl ⟨?_, rfl, rfl, rfl, rfl⟩
        decide +kernel
    · refine ⟨_, mem_cons_of_mem _ mem_cons_self, ?_, rfl, rfl, rfl, rfl⟩
      decide +kernel
  · refine (htransition _ _ withoutUnit_numbered (.rebound 2 1 1) hreuse).2 _
      mem_cons_self ?_ (Or.inl ⟨_, mem_cons_self, rfl⟩)
    unfold StillThere
    decide +kernel

end DartPlant
