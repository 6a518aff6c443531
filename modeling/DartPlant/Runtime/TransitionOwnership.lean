import DartPlant.Runtime.ImageOwnership
import DartPlant.Runtime.ImageTransition

/-! # No stale owner after a transition

Everything a group's registries hold carries the receipt of one of its images.  A transition keeps
that: what belonged to an affected image is erased by its tokens, and an unaffected image has its
receipt in the staged set too.

Old images keep what was observed about them only in a transition that does not invalidate the whole
runtime, and their live entries are counted anew when the directory is pruned.
-/

namespace DartPlant
open SharedLedger RuntimeImageSet DartRuntimeOwnerIdentity List

/-! ## Staged sets -/

/-- The sets that a transition is handed: a first refresh, a refresh reconciled with the current
set, the current set without one image, or the current set under new owner epochs. -/
inductive StagedFor (current : RuntimeImageSet) : RuntimeImageSet → Prop
  | first (set : RuntimeImageSet) (hempty : current.images = []) : StagedFor current set
  | refreshed (set numbered : RuntimeImageSet) (generation engineEpoch groupEpoch : BitVec 64)
      (hstaged : Staged set)
      (hids : current.nextId.toNat + set.freshIds current < 2 ^ 64)
      (hepochs : current.nextIncarnationEpoch.toNat + set.freshEpochs current < 2 ^ 64)
      (hreconcile : set.reconcileOwnershipFrom current = (numbered, true)) :
      StagedFor current
        ((numbered.bindGeneration generation).bindOwnerEpochs engineEpoch groupEpoch)
  | removed (id : RuntimeImageId) :
      StagedFor current { current with images := current.images.eraseP fun image => image.id == id }
  | rebound (generation engineEpoch groupEpoch : BitVec 64) :
      StagedFor current ((current.bindGeneration generation).bindOwnerEpochs engineEpoch groupEpoch)

/-- A staged set gives each image its own id, and a token of the current set to nothing else. -/
structure Reconciled (current staged : RuntimeImageSet) : Prop where
  ids : (staged.images.map RuntimeImage.id).Nodup
  denotes : ∀ old ∈ current.images, ∀ image ∈ staged.images, image.token = old.token →
    image.physical = old.physical

theorem WellNumbered.eq_of_token {set : RuntimeImageSet} (h : WellNumbered set)
    {image other : RuntimeImage} (hi : image ∈ set.images) (ho : other ∈ set.images)
    (htoken : image.token = other.token) : image = other :=
  inj_on_of_nodup_map h.ids.nodup hi ho (congrArg Prod.fst htoken)

/-- Where ids are distinct, the id of an image finds it. -/
theorem findById_of_mem {set : RuntimeImageSet} {image : RuntimeImage}
    (hids : (set.images.map RuntimeImage.id).Nodup) (himage : image ∈ set.images)
    (hid : image.id ≠ kInvalidRuntimeImageId) : set.findById image.id = some image := by
  rw [findById, if_neg hid]
  cases hfound : set.images.find? fun other => other.id == image.id with
  | none => exact absurd (beq_iff_eq.mpr rfl) (List.find?_eq_none.mp hfound image himage)
  | some found =>
    have hsame := beq_iff_eq.mp (List.find?_some
      (p := fun other : RuntimeImage => other.id == image.id) hfound)
    rw [inj_on_of_nodup_map hids (mem_of_find?_eq_some hfound) himage hsame]

/-- Binding epochs changes neither tokens nor what the images are. -/
theorem Reconciled.bind {current staged : RuntimeImageSet} (h : Reconciled current staged)
    (generation engineEpoch groupEpoch : BitVec 64) :
    Reconciled current ((staged.bindGeneration generation).bindOwnerEpochs engineEpoch groupEpoch)
    where
  ids := by
    have heq : ((staged.bindGeneration generation).bindOwnerEpochs engineEpoch
        groupEpoch).images.map RuntimeImage.id = staged.images.map RuntimeImage.id := by
      simp only [bindOwnerEpochs, bindGeneration, map_map,
        Function.comp_def]
    rw [heq]
    exact h.ids
  denotes := by
    intro old hold image himage htoken
    obtain ⟨bound, hbound, rfl⟩ := mem_map.mp himage
    obtain ⟨raw, hraw, rfl⟩ := mem_map.mp hbound
    exact h.denotes old hold raw hraw htoken

theorem Reconciled.refl {current : RuntimeImageSet} (h : WellNumbered current) :
    Reconciled current current :=
  ⟨h.ids.nodup, fun _ hold _ himage htoken => congrArg RuntimeImage.physical
    (h.eq_of_token himage hold htoken)⟩

theorem StagedFor.reconciled {current staged : RuntimeImageSet} (hp : WellNumbered current)
    (hne : current.images ≠ []) (h : StagedFor current staged) : Reconciled current staged := by
  cases h with
  | first _ hempty => exact absurd hempty hne
  | refreshed set numbered generation engineEpoch groupEpoch hstaged hids hepochs hreconcile =>
    have hids := reconciled_ids hp hstaged hids
    have hepochs := reconciled_epochs hp hstaged hepochs
    rw [reconcileOwnershipFrom_accepts hp hstaged hids.numbered_next] at hreconcile
    obtain ⟨rfl, -⟩ := Prod.mk.inj hreconcile
    refine Reconciled.bind ⟨hids.numbered_next.nodup, ?_⟩ generation engineEpoch groupEpoch
    intro old hold image himage htoken
    obtain ⟨hid, hepoch⟩ := Prod.mk.inj htoken
    have hbelow := (hp.epochs.range old hold).2
    rcases reconciled_tokens hp hids hepochs himage with
      ⟨other, hother, hsame, hid', -⟩ | ⟨-, -, -, -, -, hle⟩ | ⟨-, -, hle⟩
    · have heq : other = old :=
        inj_on_of_nodup_map hp.ids.nodup hother hold (hid'.symm.trans hid)
      rw [hsame, heq]
    · rw [hepoch] at hle
      omega
    · rw [hepoch] at hle
      omega
  | removed id =>
    refine ⟨(hp.ids.nodup).sublist (List.Sublist.map _ eraseP_sublist), ?_⟩
    intro old hold image himage htoken
    exact congrArg RuntimeImage.physical
      (hp.eq_of_token (mem_of_mem_eraseP himage) hold htoken)
  | rebound generation engineEpoch groupEpoch =>
    exact (Reconciled.refl hp).bind generation engineEpoch groupEpoch

/-! ## Owned records -/

/-- The receipt is that of an image of the set. -/
def Owns (set : RuntimeImageSet) (owner : DartRuntimeOwnerIdentity) : Prop :=
  ∃ image ∈ set.images, owner = image.ownerIdentity

/-- Every record of the group carries the receipt of one of its images. -/
structure OwnedRecords (group : RuntimeImageState) : Prop where
  evidence : ∀ entry ∈ group.abiEvidence, Owns group.imageSet entry.target.owner ∧
    entry.target.imageId = entry.target.owner.imageId
  targets : ∀ target ∈ group.entryTargets.targets, Owns group.imageSet target.1.owner
  directory : ∀ index, group.liveSnapshotIndex = some index → ∀ owner ∈ index.owners,
    Owns group.imageSet owner

/-- A group whose records are owned, over a set of images as reconciliation numbers them. -/
structure OwnedGroup (group : RuntimeImageState) : Prop where
  numbered : WellNumbered group.imageSet
  records : OwnedRecords group

section Lifecycle
variable {set : RuntimeImageSet}

/-- Lifecycles apart, nothing happened to the set. -/
def SameImages (set other : RuntimeImageSet) : Prop := set.activateAll = other.activateAll

theorem setLifecycle_same (lifecycle : RuntimeImageLifecycleState)
    (token : RuntimeImageId × RuntimeImageIncarnationEpoch) :
    SameImages (set.setLifecycle lifecycle token) set := by
  have himages : ∀ images : List RuntimeImage,
      (alter RuntimeImage.token (fun image => { image with lifecycle }) token images).map
        (fun image => { image with lifecycle := .active }) =
      images.map fun image => { image with lifecycle := .active } := by
    intro images
    induction images with
    | nil => rfl
    | cons image images ih =>
      rw [alter]
      split
      · rfl
      · rw [map_cons, map_cons, ih]
  simp only [SameImages, activateAll, setLifecycle, himages]

theorem beginDrain_same (set : RuntimeImageSet)
    (token : RuntimeImageId × RuntimeImageIncarnationEpoch) :
    SameImages (set.beginDrain token).1 set := by
  unfold beginDrain
  split
  · rfl
  · split
    · rfl
    · exact setLifecycle_same _ _

theorem drainImages_same (set : RuntimeImageSet) (affected : List RuntimeImage) :
    SameImages (drainImages set affected).1 set := by
  induction affected generalizing set with
  | nil => rfl
  | cons image rest ih =>
    have hdrain := beginDrain_same set image.token
    rw [drainImages]
    split
    next drained hresult =>
      rw [hresult] at hdrain
      exact hdrain
    next drained hresult =>
      rw [hresult] at hdrain
      exact (ih _).trans hdrain

end Lifecycle

/-! ## Erasure -/

section Erase
variable {group : RuntimeImageState} {affected : List RuntimeImage}

/-- Erasing an image erases what carries its receipt, and nothing that stays is new. -/
theorem eraseImages_records (group : RuntimeImageState)
    (hids : ∀ image ∈ affected, image.id ≠ 0) :
    (∀ entry ∈ (eraseAffected group affected false).abiEvidence, entry ∈ group.abiEvidence ∧
      ∀ image ∈ affected, entry.target.imageId = entry.target.owner.imageId →
        entry.target.owner ≠ image.ownerIdentity) ∧
    (∀ target ∈ (eraseAffected group affected false).entryTargets.targets,
      target ∈ group.entryTargets.targets ∧
        ∀ image ∈ affected, target.1.owner ≠ image.ownerIdentity) ∧
    (eraseAffected group affected false).liveSnapshotIndex = group.liveSnapshotIndex := by
  simp only [eraseAffected, Bool.false_eq_true, if_false]
  induction affected generalizing group with
  | nil =>
    exact ⟨fun _ h => ⟨h, fun _ h => absurd h not_mem_nil⟩,
      fun _ h => ⟨h, fun _ h => absurd h not_mem_nil⟩, rfl⟩
  | cons image rest ih =>
    rw [foldl_cons]
    obtain ⟨hevidence, htargets, hindex⟩ :=
      ih _ fun other hother => hids other (mem_cons_of_mem image hother)
    refine ⟨fun entry hentry => ?_, fun target htarget => ?_, hindex⟩
    · obtain ⟨hmem, hrest⟩ := hevidence entry hentry
      rw [eraseRuntimeAbiEvidenceForImage, if_neg (hids image mem_cons_self)] at hmem
      obtain ⟨hmem, hkept⟩ := mem_filter.mp hmem
      refine ⟨hmem, fun other hother hid howner => ?_⟩
      rcases mem_cons.mp hother with rfl | hother
      · rw [hid, howner] at hkept
        simp only [RuntimeImage.ownerIdentity, beq_self_eq_true, Bool.or_true, Bool.and_self,
          Bool.not_true, Bool.false_eq_true] at hkept
      · exact hrest other hother hid howner
    · obtain ⟨hmem, hrest⟩ := htargets target htarget
      obtain ⟨hmem, hkept⟩ := mem_filter.mp hmem
      refine ⟨hmem, fun other hother howner => ?_⟩
      rcases mem_cons.mp hother with rfl | hother
      · rw [DartEntryTargetRegistry.matchesImage, howner] at hkept
        simp only [RuntimeImage.ownerIdentity, beq_self_eq_true, Bool.or_true, Bool.and_self,
          Bool.not_true, Bool.false_eq_true] at hkept
      · exact hrest other hother howner

/-- The registries of `erased` hold old records of unaffected images only. -/
structure Erased (group : RuntimeImageState) (affected : List RuntimeImage)
    (erased : RuntimeImageState) : Prop where
  evidence : ∀ entry ∈ erased.abiEvidence, entry ∈ group.abiEvidence ∧
    ∀ image ∈ affected, entry.target.imageId = entry.target.owner.imageId →
      entry.target.owner ≠ image.ownerIdentity
  targets : ∀ target ∈ erased.entryTargets.targets, target ∈ group.entryTargets.targets ∧
    ∀ image ∈ affected, target.1.owner ≠ image.ownerIdentity
  directory : erased.liveSnapshotIndex = group.liveSnapshotIndex

theorem eraseAffected_erased (group : RuntimeImageState)
    (hids : ∀ image ∈ affected, image.id ≠ 0)
    (invalidateEntireRuntime : Bool) (drained retired : RuntimeImageSet) :
    Erased group affected { eraseAffected { group with imageSet := drained } affected
      invalidateEntireRuntime with imageSet := retired } := by
  cases invalidateEntireRuntime with
  | false =>
    obtain ⟨hevidence, htargets, hindex⟩ :=
      eraseImages_records { group with imageSet := drained } hids
    exact ⟨hevidence, htargets, hindex⟩
  | true => exact ⟨fun _ h => absurd h not_mem_nil, fun _ h => absurd h not_mem_nil, rfl⟩

end Erase

/-! ## Publication -/

/-- What publication makes of one staged image: it is active and has its receipt, and only its
live-entry count may differ. -/
structure PublishedAs (staged image : RuntimeImage) : Prop where
  active : image.lifecycle = .active
  owner : image.ownerIdentity = staged.ownerIdentity
  hashBound : image.deferredProgramHashVmBound = staged.deferredProgramHashVmBound
  loadState : image.deferredLoadState = staged.deferredLoadState

section Publish
variable {group : RuntimeImageState} {staged : RuntimeImageSet} {affected : List RuntimeImage}
  {invalidateEntireRuntime : Bool}

/-- Publication either binds the pruned directory, or leaves the counts and keeps or drops the
directory. -/
theorem publishStaged_cases (group : RuntimeImageState) (staged : RuntimeImageSet)
    (affected : List RuntimeImage) (invalidateEntireRuntime : Bool) :
    (∃ index info, prunedDirectory group affected invalidateEntireRuntime = some (index, info) ∧
      publishStaged group staged affected invalidateEntireRuntime = { group with
        imageSet := { staged.activateAll with images := staged.activateAll.images.map fun image =>
          { image with liveEntryCount := index.liveEntriesOf image.id } }
        liveSnapshotIndex := some index
        liveFunctionIndexInfo := info }) ∨
    (publishStaged group staged affected invalidateEntireRuntime).imageSet = staged.activateAll ∧
      (publishStaged group staged affected invalidateEntireRuntime).abiEvidence =
        group.abiEvidence ∧
      (publishStaged group staged affected invalidateEntireRuntime).entryTargets =
        group.entryTargets ∧
      ((publishStaged group staged affected invalidateEntireRuntime).liveSnapshotIndex = none ∨
        affected = [] ∧ invalidateEntireRuntime = false ∧
          (publishStaged group staged affected invalidateEntireRuntime).liveSnapshotIndex =
            group.liveSnapshotIndex) := by
  unfold publishStaged
  dsimp only
  split
  next rebound index info hbound =>
    obtain ⟨⟨index', info'⟩, hpruned, hmap⟩ := Option.bind_eq_some_iff.mp hbound
    obtain ⟨images, himages, heq⟩ := Option.map_eq_some_iff.mp hmap
    obtain ⟨rfl, hpair⟩ := Prod.mk.inj heq
    obtain ⟨rfl, rfl⟩ := Prod.mk.inj hpair
    refine Or.inl ⟨index', info', hpruned, ?_⟩
    cases hbind : bindStableLiveSnapshotImageSemantics index' staged.activateAll with
    | error message =>
      rw [hbind] at himages
      cases himages
    | ok rebound =>
      rw [hbind] at himages
      obtain rfl := Option.some.inj himages
      rw [bindStable_images hbind]
  next =>
    refine Or.inr ?_
    split
    next hpreserve =>
      refine ⟨rfl, rfl, rfl, Or.inr ⟨?_, ?_, rfl⟩⟩
      · simp only [preserveStableDirectory, Bool.and_eq_true, List.isEmpty_iff] at hpreserve
        exact hpreserve.1.2
      · simp only [preserveStableDirectory, Bool.and_eq_true, Bool.not_eq_true'] at hpreserve
        exact hpreserve.1.1
    · exact ⟨rfl, rfl, rfl, Or.inl rfl⟩

theorem publishStaged_registries (group : RuntimeImageState) (staged : RuntimeImageSet)
    (affected : List RuntimeImage) (invalidateEntireRuntime : Bool) :
    (publishStaged group staged affected invalidateEntireRuntime).abiEvidence =
        group.abiEvidence ∧
      (publishStaged group staged affected invalidateEntireRuntime).entryTargets =
        group.entryTargets := by
  rcases publishStaged_cases group staged affected invalidateEntireRuntime with
    ⟨index, info, -, heq⟩ | ⟨-, hevidence, htargets, -⟩
  · rw [heq]
    exact ⟨rfl, rfl⟩
  · exact ⟨hevidence, htargets⟩

theorem publishStaged_images (group : RuntimeImageState) (staged : RuntimeImageSet)
    (affected : List RuntimeImage) (invalidateEntireRuntime : Bool) :
    ∃ publish : RuntimeImage → RuntimeImage, (∀ image, PublishedAs image (publish image)) ∧
      (publishStaged group staged affected invalidateEntireRuntime).imageSet.images =
        staged.images.map publish ∧
      ∀ image, (publish image).liveEntryCount = image.liveEntryCount ∨
        ∃ index info, prunedDirectory group affected invalidateEntireRuntime = some (index, info) ∧
          (publish image).liveEntryCount = index.liveEntriesOf image.id := by
  rcases publishStaged_cases group staged affected invalidateEntireRuntime with
    ⟨index, info, hpruned, heq⟩ | ⟨heq, -⟩
  · refine ⟨fun image => { image with
      lifecycle := .active, liveEntryCount := index.liveEntriesOf image.id },
      fun _ => ⟨rfl, rfl, rfl, rfl⟩, ?_, fun _ => Or.inr ⟨index, info, hpruned, rfl⟩⟩
    rw [heq]
    simp only [activateAll, map_map, Function.comp_def]
  · refine ⟨fun image => { image with lifecycle := .active }, fun _ => ⟨rfl, rfl, rfl, rfl⟩, ?_,
      fun _ => Or.inl rfl⟩
    rw [heq]
    rfl

end Publish

/-! ## Unaffected images -/

section Affected
variable {current staged : RuntimeImageSet} {invalidateEntireRuntime : Bool} {old : RuntimeImage}

/-- An image that is not affected has its receipt in the staged set. -/
theorem exists_of_unaffected (hold : old ∈ current.images)
    (hnot : old ∉ affectedImages current staged invalidateEntireRuntime) :
    invalidateEntireRuntime = false ∧
      ∃ replacement ∈ staged.images, replacement.ownerIdentity = old.ownerIdentity := by
  have hkept : (!invalidateEntireRuntime && (staged.findById old.id).any fun replacement =>
      samePublishedOwner old replacement) = true := by
    by_contra hfalse
    refine hnot (mem_filter.mpr ⟨hold, ?_⟩)
    rw [Bool.eq_false_iff.mpr hfalse, Bool.not_false]
  obtain ⟨hinvalidate, hany⟩ := Bool.and_eq_true_iff.mp hkept
  refine ⟨by simpa only [Bool.not_eq_true'] using hinvalidate, ?_⟩
  cases hfind : staged.findById old.id with
  | none =>
    rw [hfind] at hany
    cases hany
  | some replacement =>
    rw [hfind] at hany
    refine ⟨replacement, ?_, (samePublishedOwner_iff.mp hany).symm⟩
    unfold findById at hfind
    split at hfind
    · cases hfind
    · exact mem_of_find?_eq_some hfind

/-- An image whose receipt is in a staged set is not affected. -/
theorem not_affected_of_owner (hp : WellNumbered current) (hids : (staged.images.map
      RuntimeImage.id).Nodup) (hold : old ∈ current.images) {image : RuntimeImage}
    (himage : image ∈ staged.images) (howner : image.ownerIdentity = old.ownerIdentity) :
    old ∉ affectedImages current staged false := by
  intro hmem
  have hid : image.id = old.id := congrArg imageId howner
  have hnonzero : old.id ≠ kInvalidRuntimeImageId := toNat_pos_iff.mp (hp.ids.range old hold).1
  have hfind : staged.findById old.id = some image :=
    hid ▸ findById_of_mem hids himage (hid ▸ hnonzero)
  have hkept := (mem_filter.mp hmem).2
  rw [hfind, Option.any_some, samePublishedOwner_iff.mpr howner.symm] at hkept
  cases hkept

end Affected

/-! ## Carried bindings -/

section Bindings
variable {current : RuntimeImageSet} {image old : RuntimeImage}

theorem preserveBindings_owner (previous : List RuntimeImage) (image : RuntimeImage) :
    (preserveBindings previous image).ownerIdentity = image.ownerIdentity := by
  unfold preserveBindings
  split <;> rfl

/-- An image with the receipt and identity of an old one takes over what is known about that one. -/
theorem preserveBindings_eq (hp : WellNumbered current) (hold : old ∈ current.images)
    (howner : image.ownerIdentity = old.ownerIdentity) (hsame : image.physical = old.physical) :
    preserveBindings current.images image = { image with
      liveEntryCount := old.liveEntryCount
      deferredProgramHashVmBound := old.deferredProgramHashVmBound
      deferredLoadState := old.deferredLoadState } := by
  unfold preserveBindings
  cases hfind : current.images.find? fun other =>
      samePublishedOwner image other && sameImageIdentity image other with
  | none =>
    have hnone := List.find?_eq_none.mp hfind old hold
    rw [samePublishedOwner_iff.mpr howner, sameImageIdentity_iff.mpr hsame] at hnone
    exact absurd rfl hnone
  | some found =>
    have hboth := List.find?_some (p := fun other => samePublishedOwner image other &&
      sameImageIdentity image other) hfind
    have hfound := (Bool.and_eq_true_iff.mp hboth).1
    have heq : found = old := by
      have howner' := (samePublishedOwner_iff.mp hfound).symm.trans howner
      exact hp.eq_of_token (mem_of_find?_eq_some hfind) hold (Prod.ext
        (congrArg imageId howner')
        (congrArg imageIncarnationEpoch howner'))
    rw [heq]

/-- The pruned directory is the stable one of the group without the affected images. -/
theorem prunedDirectory_eq {group : RuntimeImageState} {affected : List RuntimeImage}
    {pruned : SnapshotIndex} {info : DartPlantLiveVmFunctionIndexInfo}
    {invalidateEntireRuntime : Bool}
    (h : prunedDirectory group affected invalidateEntireRuntime = some (pruned, info)) :
    ∃ index, group.liveSnapshotIndex = some index ∧ index.stableLiveDirectory = true ∧
      pruneStableLiveSnapshotIndexForImages index affected group.liveFunctionIndexInfo =
        .ok (pruned, info) := by
  unfold prunedDirectory at h
  split at h
  · cases h
  next index hindex =>
    split at h
    next hguard =>
      simp only [Bool.and_eq_true] at hguard
      refine ⟨index, hindex, hguard.1.2, ?_⟩
      cases hprune : pruneStableLiveSnapshotIndexForImages index affected
          group.liveFunctionIndexInfo with
      | error message =>
        rw [hprune] at h
        cases h
      | ok result =>
        rw [hprune] at h
        rw [Option.some.inj h]
    · cases h

/-- Pruning other images leaves an image its live entries. -/
theorem prune_liveEntries {affected : List RuntimeImage} {index pruned : SnapshotIndex}
    {info info' : DartPlantLiveVmFunctionIndexInfo}
    (hprune : pruneStableLiveSnapshotIndexForImages index affected info = .ok (pruned, info'))
    (howned : ∀ owner ∈ index.owners, owner.imageId = old.id →
      ∀ other ∈ affected, other.ownerIdentity ≠ owner) :
    pruned.liveEntriesOf old.id = index.liveEntriesOf old.id := by
  rw [SnapshotIndex.liveEntriesOf, (prune_owners hprune).2, SnapshotIndex.liveEntriesOf]
  unfold liveEntriesOf
  congr 2
  rw [count_eq_countP, count_eq_countP, countP_map, countP_map,
    countP_filter]
  apply countP_congr
  intro function hfunction
  simp only [Function.comp_apply, Bool.and_eq_true, beq_iff_eq, and_iff_left_iff_imp]
  intro hid
  refine retiredImageIndex_isNone.mpr (howned function.owner ?_ hid)
  exact mem_append_left _ (mem_append_left _ (mem_map_of_mem hfunction))

end Bindings

/-! ## The transition -/

/-- What an old image knows stays known in the image that has its receipt.  A stable directory must
agree with the live-entry count for that one to stay. -/
structure BindingsKept (before after : RuntimeImageState) : Prop where
  receipts : ∀ old ∈ before.imageSet.images, ∀ image ∈ after.imageSet.images,
    image.ownerIdentity = old.ownerIdentity →
      image.deferredProgramHashVmBound = old.deferredProgramHashVmBound ∧
        image.deferredLoadState = old.deferredLoadState
  liveEntries : ∀ old ∈ before.imageSet.images, ∀ image ∈ after.imageSet.images,
    image.ownerIdentity = old.ownerIdentity →
      (∀ index, before.liveSnapshotIndex = some index → index.stableLiveDirectory = true →
        index.liveEntriesOf old.id = old.liveEntryCount) →
      image.liveEntryCount = old.liveEntryCount

section Transition
variable {η : Type} {drain : HookDrain η} {group : RuntimeImageState} {hooks : η}
  {staged : RuntimeImageSet} {modules : List ModuleImage} {invalidateEntireRuntime : Bool}

/-- The staged set as it is published. -/
def carriedSet (current staged : RuntimeImageSet) (invalidateEntireRuntime : Bool) :
    RuntimeImageSet :=
  if invalidateEntireRuntime then staged else staged.preserveSemanticBindingsFrom current

/-- A transition either fails with nothing but lifecycles changed, or publishes the staged set over
the erased registries. -/
theorem transition_cases (drain : HookDrain η) (group : RuntimeImageState) (hooks : η)
    (staged : RuntimeImageSet) (modules : List ModuleImage) (invalidateEntireRuntime : Bool) :
    (∃ failure drained hooks', SameImages drained group.imageSet ∧
      transitionRuntimeImages drain group hooks staged modules invalidateEntireRuntime =
        ({ group with imageSet := drained }, hooks', .error failure)) ∨
    ∃ drained retired hooks',
      let affected := affectedImages group.imageSet staged invalidateEntireRuntime
      transitionRuntimeImages drain group hooks staged modules invalidateEntireRuntime =
        (publishStaged { eraseAffected { group with imageSet := drained } affected
            invalidateEntireRuntime with imageSet := retired }
          (carriedSet group.imageSet staged invalidateEntireRuntime) affected
          invalidateEntireRuntime, hooks', .ok ()) := by
  unfold transitionRuntimeImages
  dsimp only
  have hsame := drainImages_same group.imageSet
    (affectedImages group.imageSet staged invalidateEntireRuntime)
  split
  next drained hdrain =>
    rw [hdrain] at hsame
    exact Or.inl ⟨_, drained, hooks, hsame, rfl⟩
  next drained hdrain =>
    rw [hdrain] at hsame
    split
    next hooks' failure _ => exact Or.inl ⟨failure, drained, hooks', hsame, rfl⟩
    next hooks' _ => exact Or.inr ⟨drained, _, hooks', rfl⟩

theorem carriedSet_owner (group : RuntimeImageState)
    (invalidateEntireRuntime : Bool) {image : RuntimeImage} (h : image ∈ staged.images) :
    ∃ carried ∈ (carriedSet group.imageSet staged invalidateEntireRuntime).images,
      carried.ownerIdentity = image.ownerIdentity := by
  unfold carriedSet
  split
  · exact ⟨image, h, rfl⟩
  · exact ⟨_, mem_map_of_mem h, preserveBindings_owner _ _⟩

/-- An unaffected owner is published. -/
theorem owns_published {published : RuntimeImageSet} {owner : DartRuntimeOwnerIdentity}
    {publish : RuntimeImage → RuntimeImage} (hpublish : ∀ image, PublishedAs image (publish image))
    (himages : published.images =
      (carriedSet group.imageSet staged invalidateEntireRuntime).images.map publish)
    (howns : Owns group.imageSet owner)
    (hkept : ∀ image ∈ affectedImages group.imageSet staged invalidateEntireRuntime,
      owner ≠ image.ownerIdentity) : Owns published owner := by
  obtain ⟨old, hold, rfl⟩ := howns
  obtain ⟨-, replacement, hreplacement, howner⟩ :=
    exists_of_unaffected hold fun hmem => hkept old hmem rfl
  obtain ⟨carried, hcarried, hsame⟩ := carriedSet_owner group
    invalidateEntireRuntime hreplacement
  refine ⟨publish carried, himages ▸ mem_map_of_mem hcarried, ?_⟩
  rw [(hpublish carried).owner, hsame, howner]

/-- The registries of a transition that succeeded hold no receipt without its image. -/
theorem publishStaged_records (hgroup : OwnedGroup group) {erased : RuntimeImageState}
    (herased : Erased group (affectedImages group.imageSet staged invalidateEntireRuntime) erased) :
    OwnedRecords (publishStaged erased (carriedSet group.imageSet staged invalidateEntireRuntime)
      (affectedImages group.imageSet staged invalidateEntireRuntime) invalidateEntireRuntime) := by
  generalize hset : carriedSet group.imageSet staged invalidateEntireRuntime = carried
  generalize haffected : affectedImages group.imageSet staged invalidateEntireRuntime = affected
    at herased ⊢
  obtain ⟨publish, hpublish, himages, -⟩ :=
    publishStaged_images erased carried affected invalidateEntireRuntime
  obtain ⟨hevidence, htargets⟩ :=
    publishStaged_registries erased carried affected invalidateEntireRuntime
  subst hset haffected
  refine ⟨fun entry hentry => ?_, fun target htarget => ?_, fun index hindex owner howner => ?_⟩
  · rw [hevidence] at hentry
    obtain ⟨hmem, hkept⟩ := herased.evidence entry hentry
    obtain ⟨howned, hid⟩ := hgroup.records.evidence entry hmem
    exact ⟨owns_published hpublish himages howned fun image himage => hkept image himage hid, hid⟩
  · rw [htargets] at htarget
    obtain ⟨hmem, hkept⟩ := herased.targets target htarget
    exact owns_published hpublish himages (hgroup.records.targets target hmem) hkept
  · rcases publishStaged_cases erased _ _ invalidateEntireRuntime with
      ⟨pruned, info, hpruned, heq⟩ | ⟨-, -, -, hnone | ⟨hempty, -, hsame⟩⟩
    · rw [heq] at hindex
      obtain rfl := Option.some.inj hindex
      obtain ⟨old, hold, -, hprune⟩ := prunedDirectory_eq hpruned
      obtain ⟨hmem, hkept⟩ := (prune_owners hprune).1 owner howner
      exact owns_published hpublish himages
        (hgroup.records.directory old (herased.directory.symm.trans hold) owner hmem)
        fun image himage => (hkept image himage).symm
    · rw [hnone] at hindex
      cases hindex
    · rw [hsame, herased.directory] at hindex
      refine owns_published hpublish himages
        (hgroup.records.directory index hindex owner howner) fun image himage => ?_
      rw [hempty] at himage
      cases himage

/-- What was known about an image whose receipt is published again is carried over. -/
theorem publishStaged_bindings (hgroup : OwnedGroup group)
    (hstaged : StagedFor group.imageSet staged) {erased : RuntimeImageState}
    (herased : Erased group (affectedImages group.imageSet staged false) erased) :
    BindingsKept group (publishStaged erased (staged.preserveSemanticBindingsFrom group.imageSet)
      (affectedImages group.imageSet staged false) false) := by
  obtain ⟨publish, hpublish, himages, hcounts⟩ := publishStaged_images erased
    (staged.preserveSemanticBindingsFrom group.imageSet)
    (affectedImages group.imageSet staged false) false
  -- The image with the receipt of `old` is what publication makes of its carried staged image.
  have hcarried : ∀ old ∈ group.imageSet.images, ∀ image ∈ (publishStaged erased
      (staged.preserveSemanticBindingsFrom group.imageSet)
      (affectedImages group.imageSet staged false) false).imageSet.images,
      image.ownerIdentity = old.ownerIdentity →
      ∃ carried raw, image = publish carried ∧ raw ∈ staged.images ∧
        raw.ownerIdentity = old.ownerIdentity ∧ carried = { raw with
          liveEntryCount := old.liveEntryCount
          deferredProgramHashVmBound := old.deferredProgramHashVmBound
          deferredLoadState := old.deferredLoadState } := by
    intro old hold image himage howner
    rw [himages] at himage
    obtain ⟨carried, hcarried, rfl⟩ := mem_map.mp himage
    obtain ⟨raw, hraw, hcarriedEq⟩ := mem_map.mp hcarried
    have hrawOwner : raw.ownerIdentity = old.ownerIdentity := by
      rw [← preserveBindings_owner group.imageSet.images raw, hcarriedEq,
        ← (hpublish carried).owner, howner]
    have hne : group.imageSet.images ≠ [] := ne_nil_of_mem hold
    have hphysical := (hstaged.reconciled hgroup.numbered hne).denotes old hold raw hraw
      (Prod.ext (congrArg imageId hrawOwner)
        (congrArg imageIncarnationEpoch hrawOwner))
    exact ⟨carried, raw, rfl, hraw, hrawOwner, hcarriedEq.symm.trans
      (preserveBindings_eq hgroup.numbered hold hrawOwner hphysical)⟩
  refine ⟨fun old hold image himage howner => ?_, fun old hold image himage howner hagree => ?_⟩
  · obtain ⟨carried, raw, rfl, -, -, rfl⟩ := hcarried old hold image himage howner
    exact ⟨(hpublish _).hashBound, (hpublish _).loadState⟩
  · obtain ⟨carried, raw, rfl, hraw, hrawOwner, hcarriedEq⟩ :=
      hcarried old hold image himage howner
    have hcarriedId : carried.id = old.id := by
      rw [hcarriedEq]
      exact congrArg imageId hrawOwner
    rcases hcounts carried with hcount | ⟨pruned, info, hpruned, hcount⟩
    · rw [hcount, hcarriedEq]
    · obtain ⟨index, hindex, hstable, hprune⟩ := prunedDirectory_eq hpruned
      rw [hcount, hcarriedId, prune_liveEntries hprune ?_,
        hagree index (herased.directory.symm.trans hindex) hstable]
      intro owner _ hid other hother heq
      have hotherMem := (mem_filter.mp hother).1
      have hsame : other = old := inj_on_of_nodup_map hgroup.numbered.ids.nodup hotherMem hold
        ((congrArg imageId heq).trans hid)
      have hne : group.imageSet.images ≠ [] := ne_nil_of_mem hold
      exact not_affected_of_owner hgroup.numbered
        (hstaged.reconciled hgroup.numbered hne).ids hold hraw hrawOwner (hsame ▸ hother)

/-- A transition that succeeds publishes active images and registries that only they own, and one
that fails publishes nothing. -/
theorem transition_leaves_no_stale_owner (drain : HookDrain η) (group : RuntimeImageState)
    (hooks : η) (staged : RuntimeImageSet) (modules : List ModuleImage)
    (invalidateEntireRuntime : Bool) (hgroup : OwnedGroup group)
    (hstaged : StagedFor group.imageSet staged) :
    let outcome := transitionRuntimeImages drain group hooks staged modules invalidateEntireRuntime
    (outcome.2.2 = .ok () → (∀ image ∈ outcome.1.imageSet.images, image.lifecycle = .active) ∧
      OwnedRecords outcome.1 ∧ (invalidateEntireRuntime = false → BindingsKept group outcome.1)) ∧
    ∀ failure, outcome.2.2 = .error failure → SameImages outcome.1.imageSet group.imageSet ∧
      outcome.1 = { group with imageSet := outcome.1.imageSet } := by
  intro outcome
  have houtcome : transitionRuntimeImages drain group hooks staged modules
      invalidateEntireRuntime = outcome := rfl
  have hids : ∀ image ∈ affectedImages group.imageSet staged invalidateEntireRuntime,
      image.id ≠ 0 := by
    intro image himage
    exact toNat_pos_iff.mp (hgroup.numbered.ids.range image (mem_filter.mp himage).1).1
  rcases transition_cases drain group hooks staged modules invalidateEntireRuntime with
    ⟨failure, drained, hooks', hsame, heq⟩ | ⟨drained, retired, hooks', heq⟩
  · rw [← houtcome, heq]
    exact ⟨fun hok => (by cases hok), fun _ _ => ⟨hsame, rfl⟩⟩
  · have herased := eraseAffected_erased group hids invalidateEntireRuntime drained
      retired
    rw [← houtcome, heq]
    refine ⟨fun _ => ⟨?_, publishStaged_records hgroup herased, ?_⟩, fun _ herror => by cases herror⟩
    · obtain ⟨publish, hpublish, himages, -⟩ := publishStaged_images
        { eraseAffected { group with imageSet := drained }
            (affectedImages group.imageSet staged invalidateEntireRuntime)
            invalidateEntireRuntime with imageSet := retired }
        (carriedSet group.imageSet staged invalidateEntireRuntime)
        (affectedImages group.imageSet staged invalidateEntireRuntime) invalidateEntireRuntime
      intro image himage
      rw [himages] at himage
      obtain ⟨carried, -, rfl⟩ := mem_map.mp himage
      exact (hpublish carried).active
    · rintro rfl
      exact publishStaged_bindings hgroup hstaged herased

end Transition

/-! ## A unit that goes -/

/-- A root and one deferred unit, as discovery leaves them. -/
def discovered : RuntimeImageSet where
  nextId := 3
  nextIncarnationEpoch := 3
  rootId := 1
  images := [
    { id := 1, incarnationEpoch := 1, kind := .root, loadingUnitId := 1
      module := mappedModule "app" 0x1000, snapshot := mappedSnapshot "app" 0x1000 none },
    { id := 2, incarnationEpoch := 2, kind := .deferred, loadingUnitId := 2
      module := mappedModule "part" 0x4000, snapshot := mappedSnapshot "part" 0x4000 (some 7) }]

/-- Both published and active, with this many live entries in the root. -/
def liveImages (rootEntries : BitVec 32) : RuntimeImageSet :=
  let bound := (discovered.bindGeneration 1).bindOwnerEpochs 1 1
  { bound with images := bound.images.map fun image => { image with
    lifecycle := .active
    liveEntryCount := if image.kind = .root then rootEntries else 1 } }

def ownerOf (id : RuntimeImageId) : DartRuntimeOwnerIdentity := ⟨1, 1, 1, id, id⟩

/-- The record of a function with one entry. -/
def liveFunction (id : RuntimeImageId) (unit : BitVec 32) (entry : Address) :
    DartPlantLiveVmFunctionInfo where
  owner := ownerOf id
  loadingUnitId := unit
  ownerClassId := 0
  ownerFunctionIndex := 0
  function := 0
  code := 0
  codeObjectPool := 0
  ownerClass := 0
  library := 0
  entryPoints := ⟨entry, 0, 0, 0⟩
  entryKindMask := 1
  entryAliasCounts := ⟨1, 0, 0, 0⟩
  entryAliasCount := 1
  entryIsShared := false

def rootFunction : SnapshotFunction where
  owner := ownerOf 1
  libraryUri := "package:app/main.dart"
  className := ""
  functionName := "main"
  signature := ""
  entryKind := .default
  functionObject := 0
  codeObject := 0
  codeObjectPool := 0
  runtimeEntry := 0x1000
  ownerClass := 0
  library := 0
  entryAliasCount := 1
  closureCallEntryOnly := false
  live := true

/-- A stable directory with one function in each image. -/
def liveGroup (rootEntries : BitVec 32) : RuntimeImageState where
  imageSet := liveImages rootEntries
  liveSnapshotIndex := some {
    stableLiveDirectory := true
    functions := [rootFunction]
    liveFunctionInfos := [liveFunction 1 1 0x1000, liveFunction 2 2 0x4000]
    liveFunctionSemantics := [] }
  liveFunctionIndexInfo := ⟨kLiveVmFunctionIndexInfoSize, 2, 2, 0, 0⟩

def drainNothing : HookDrain Unit where
  retireRuntimeHooks := id
  invalidateRuntimeHooks hooks := (hooks, .ok ())
  retireRuntimeImageHooks _ _ := id
  invalidateRuntimeImageHooks _ _ hooks := (hooks, .ok ())

/-- The unit's module is unloaded. -/
def withoutUnit (rootEntries : BitVec 32) : RuntimeImageSet :=
  { liveImages rootEntries with
    images := (liveImages rootEntries).images.eraseP fun image => image.id == 2 }

/-- The same modules are discovered again, under the same epochs. -/
def discoveredAgain (rootEntries : BitVec 32) : RuntimeImageSet :=
  ((discovered.reconciled (liveImages rootEntries)).bindGeneration 1).bindOwnerEpochs 1 1

theorem liveImages_numbered (rootEntries : BitVec 32) : WellNumbered (liveImages rootEntries) := by
  have htokens : ∀ token ∈ ([1, 2] : List (BitVec 64)), 0 < token.toNat ∧
      token.toNat < (3 : BitVec 64).toNat := by
    intro token htoken
    rcases mem_pair.mp htoken with rfl | rfl
    · decide
    · decide
  have hcursor : 0 < (3 : BitVec 64).toNat := by decide
  refine ⟨?_, ⟨hcursor, ?_, ?_⟩, ⟨hcursor, ?_, ?_⟩⟩
  · show ([(.root, 1), (.deferred, 2)] : List (RuntimeImageKind × BitVec 32)).Nodup
    decide
  · show ([1, 2] : List RuntimeImageId).Nodup
    decide
  · exact fun image himage => htokens image.id (mem_map_of_mem (f := RuntimeImage.id) himage)
  · show ([1, 2] : List RuntimeImageIncarnationEpoch).Nodup
    decide
  · exact fun image himage => htokens image.incarnationEpoch
      (mem_map_of_mem (f := RuntimeImage.incarnationEpoch) himage)

theorem liveGroup_owned (rootEntries : BitVec 32) : OwnedGroup (liveGroup rootEntries) := by
  refine ⟨liveImages_numbered rootEntries, fun _ h => absurd h not_mem_nil,
    fun _ h => absurd h not_mem_nil, fun index hindex owner howner => ?_⟩
  obtain rfl := Option.some.inj hindex
  have howners : owner ∈ [ownerOf 1, ownerOf 2, ownerOf 1] := howner
  simp only [mem_cons, not_mem_nil, or_false] at howners
  rcases howners with rfl | rfl | rfl
  · exact ⟨_, mem_cons_self, rfl⟩
  · exact ⟨_, mem_cons_of_mem _ mem_cons_self, rfl⟩
  · exact ⟨_, mem_cons_self, rfl⟩

/-- Every image that has an old image's receipt has its live entries. -/
def KeepsLiveEntries (before after : RuntimeImageState) : Prop :=
  ∀ old ∈ before.imageSet.images, ∀ image ∈ after.imageSet.images,
    image.ownerIdentity = old.ownerIdentity → image.liveEntryCount = old.liveEntryCount

instance (before after : RuntimeImageState) : Decidable (KeepsLiveEntries before after) :=
  inferInstanceAs (Decidable (∀ old ∈ before.imageSet.images, ∀ image ∈ after.imageSet.images,
    image.ownerIdentity = old.ownerIdentity → image.liveEntryCount = old.liveEntryCount))

theorem discoveredAgain_staged : StagedFor (liveImages 5) (discoveredAgain 5) := by
  have hunits : ([(.root, 1), (.deferred, 2)] : List (RuntimeImageKind × BitVec 32)).Nodup := by
    decide
  exact .refreshed discovered (discovered.reconciled (liveImages 5)) 1 1 1
    ⟨hunits, fun _ => by decide⟩ (by decide +kernel) (by decide +kernel) (by decide +kernel)

/-- Neither a transition that invalidates the whole runtime nor a pruned directory whose records
disagree with the count keeps it. -/
theorem live_entries_recounted :
    OwnedGroup (liveGroup 5) ∧ StagedFor (liveGroup 5).imageSet (discoveredAgain 5) ∧
      StagedFor (liveGroup 5).imageSet (withoutUnit 5) ∧
      (let invalidated := transitionRuntimeImages drainNothing (liveGroup 5) () (discoveredAgain 5)
        [] true
      invalidated.2.2 = .ok () ∧ ¬ KeepsLiveEntries (liveGroup 5) invalidated.1) ∧
      let pruned := transitionRuntimeImages drainNothing (liveGroup 5) () (withoutUnit 5) [] false
      pruned.2.2 = .ok () ∧ ¬ KeepsLiveEntries (liveGroup 5) pruned.1 := by
  refine ⟨liveGroup_owned 5, discoveredAgain_staged, .removed 2, ?_, ?_⟩
  · decide +kernel
  · decide +kernel

/-- The unit's module goes and the root's function stays. -/
theorem unit_removed :
    let outcome := transitionRuntimeImages drainNothing (liveGroup 1) () (withoutUnit 1) [] false
    outcome.2.2 = .ok () ∧ (∀ image ∈ outcome.1.imageSet.images, image.lifecycle = .active) ∧
      OwnedRecords outcome.1 ∧ BindingsKept (liveGroup 1) outcome.1 := by
  intro outcome
  have hok : outcome.2.2 = .ok () := by
    show (transitionRuntimeImages drainNothing (liveGroup 1) () (withoutUnit 1) [] false).2.2 = _
    decide +kernel
  have htransition := (transition_leaves_no_stale_owner drainNothing (liveGroup 1) ()
    (withoutUnit 1) [] false (liveGroup_owned 1) (.removed 2)).1 hok
  exact ⟨hok, htransition.1, htransition.2.1, htransition.2.2 rfl⟩

end DartPlant
