import DartPlant.Abi.RuntimeEvidence
import DartPlant.Runtime.ImageLifecycle
import DartPlant.Runtime.ImageOwnership

/-! # Addresses of the published images

An image is only added to a set when its instructions overlap those of no image there, and
reconciliation leaves what an image is alone.  So an address belongs to one image at most, and an
image translates between its runtime addresses and its ELF addresses in both directions.
-/

namespace DartPlant
open List

/-- `RuntimeImageSet::FindByRuntimeRange`. -/
def RuntimeImageSet.findByRuntimeRange (set : RuntimeImageSet) (address : Address)
    (size : BitVec 64) : Option RuntimeImage :=
  (findUnique (fun image => image.containsRuntimeRange address size) set.images).1

/-- `RuntimeImage::RuntimeAddressToElfVa`. -/
def RuntimeImage.runtimeAddressToElfVa (image : RuntimeImage) (address : Address)
    (size : BitVec 64) : Option (BitVec 64) :=
  if image.containsRuntimeRange address size = false then none
  else
    let offset := address - image.snapshot.isolateInstructionsRuntime
    if image.snapshot.isolateInstructionsVa > BitVec.allOnes 64 - offset then none
    else some (image.snapshot.isolateInstructionsVa + offset)

/-! ## Apart from each other -/

/-- What the images of a set were made from. -/
def RuntimeImageSet.sources (set : RuntimeImageSet) : List (ModuleImage × FlutterSnapshotSource) :=
  set.images.map fun image => image.physical.2

/-- Every source is one that an image can have, and no two have instructions in common. -/
structure SourcesApart (sources : List (ModuleImage × FlutterSnapshotSource)) : Prop where
  consistent : ∀ source ∈ sources, consistentSource source.1 source.2 = true
  apart : sources.Pairwise fun left right =>
    rangesOverlap left.2.isolateInstructionsRuntime left.2.isolateInstructionsSize
      right.2.isolateInstructionsRuntime right.2.isolateInstructionsSize = false

theorem sourcesApart_nil : SourcesApart [] := ⟨fun _ h => absurd h not_mem_nil, .nil⟩

section Staging
variable {set : RuntimeImageSet} {module : ModuleImage} {snapshot : FlutterSnapshotSource}

/-- An image that may be added is, or nothing is. -/
theorem pushImage_sourcesApart {kind : RuntimeImageKind} {unit : BitVec 32} {generation : BitVec 64}
    (h : SourcesApart set.sources) (hnew : SourcesApart (set.sources ++ [(module, snapshot)])) :
    SourcesApart (set.pushImage kind unit module snapshot generation).1.sources := by
  unfold RuntimeImageSet.pushImage
  dsimp only
  split
  · simpa only [RuntimeImageSet.sources, allocateIncarnationEpoch_images, allocateId_images] using h
  · simpa only [RuntimeImageSet.sources, allocateIncarnationEpoch_images, allocateId_images,
      map_append, map_singleton, RuntimeImage.physical] using hnew

theorem setRoot_sourcesApart (generation : BitVec 64) :
    SourcesApart (RuntimeImageSet.setRoot module snapshot generation).1.sources := by
  unfold RuntimeImageSet.setRoot
  split
  · exact sourcesApart_nil
  next hconsistent =>
    have hpushed : SourcesApart (RuntimeImageSet.pushImage {} .root 1 module snapshot
        generation).1.sources := by
      refine pushImage_sourcesApart sourcesApart_nil ⟨fun source hsource => ?_, pairwise_singleton ..⟩
      rw [mem_singleton.mp hsource]
      exact Bool.eq_true_of_not_eq_false hconsistent
    split
    next hpush => rwa [hpush] at hpushed
    next hpush => rwa [hpush] at hpushed

theorem addDeferred_sourcesApart (h : SourcesApart set.sources) (unit : BitVec 32)
    (generation : BitVec 64) :
    SourcesApart (set.addDeferred module snapshot unit generation).1.sources := by
  unfold RuntimeImageSet.addDeferred
  cases set.root with
  | none => exact h
  | some root =>
    dsimp only
    split
    · exact h
    next hallowed =>
    split
    · exact h
    next hconflict =>
    have hpushed : SourcesApart (set.pushImage .deferred unit module snapshot
        generation).1.sources := by
      refine pushImage_sourcesApart h
        ⟨fun source hsource => ?_, pairwise_append.mpr ⟨h.apart, pairwise_singleton .., ?_⟩⟩
      · rcases mem_append.mp hsource with hold | hadded
        · exact h.consistent source hold
        · rw [mem_singleton.mp hadded]
          simp only [not_or, Bool.not_eq_false] at hallowed
          exact hallowed.2.1
      · intro source hsource other hother
        obtain ⟨existing, hexisting, rfl⟩ := mem_map.mp hsource
        rw [mem_singleton.mp hother]
        have hnone := findSome?_eq_none_iff.mp hconflict existing hexisting
        change rangesOverlap existing.snapshot.isolateInstructionsRuntime
          existing.snapshot.isolateInstructionsSize _ _ = false
        grind [RuntimeImageSet.deferredConflict]
    split
    next hpush => rwa [hpush] at hpushed
    next hpush => rwa [hpush] at hpushed

theorem stagedSet_sourcesApart (staging : List StageImage) :
    SourcesApart (stagedSet staging).sources := by
  refine foldlRecOn (motive := fun set => SourcesApart set.sources) staging stageImage
    ?_ fun set h image _ => ?_
  · exact sourcesApart_nil
  cases image with
  | root module snapshot generation => exact setRoot_sourcesApart generation
  | deferred module snapshot unit generation => exact addDeferred_sourcesApart h unit generation

end Staging

/-- Reconciliation keeps what the images were made from. -/
theorem reconcileOwnershipFrom_sources (set previous : RuntimeImageSet) :
    (set.reconcileOwnershipFrom previous).1.sources = set.sources := by
  have hsame (next : RuntimeImageSet)
      (h : next.images.map RuntimeImage.physical = set.images.map RuntimeImage.physical) :
      next.sources = set.sources := by
    simpa only [RuntimeImageSet.sources, map_map, Function.comp_def] using congrArg (map Prod.snd) h
  unfold RuntimeImageSet.reconcileOwnershipFrom
  split
  · rfl
  split
  · rfl
  refine hsame _ ((assignTokens_physical ..).trans ?_)
  rw [map_map]
  exact map_congr_left fun image _ => inherit_physical previous image

theorem published_sourcesApart (refreshes : List (List StageImage)) :
    ∀ set ∈ (refreshes.foldl refreshImages {}).published, SourcesApart set.sources := by
  refine foldlRecOn (motive := fun history => ∀ set ∈ history.published, SourcesApart set.sources)
    refreshes refreshImages (fun set hset => ?_) fun history h staging _ => ?_
  · rw [mem_singleton.mp hset]
    exact sourcesApart_nil
  · have hsources := reconcileOwnershipFrom_sources (stagedSet staging) history.current
    unfold refreshImages
    split
    next set hreconciled =>
      rw [hreconciled] at hsources
      refine forall_mem_cons.mpr ⟨?_, h⟩
      rw [hsources]
      exact stagedSet_sourcesApart staging
    · exact h

/-! ## One image for an address -/

section Address
variable {image : RuntimeImage} {address size start length : BitVec 64}

/-- An address at an offset inside of a range that does not wrap is before its end. -/
theorem lt_end (_ : start ≤ address) (hoffset : address - start < length)
    (hfits : ¬length > BitVec.allOnes 64 - start) : address < start + length := by
  rw [show BitVec.allOnes 64 = 0xffffffffffffffff#64 from rfl] at hfits
  bv_omega

theorem containsRuntimeRange_iff : image.containsRuntimeRange address size = true ↔
    image.snapshot.isolateInstructionsRuntime ≠ 0 ∧
      image.snapshot.isolateInstructionsRuntime ≤ address ∧
      address - image.snapshot.isolateInstructionsRuntime < image.snapshot.isolateInstructionsSize ∧
      size ≤ image.snapshot.isolateInstructionsSize -
        (address - image.snapshot.isolateInstructionsRuntime) ∧
      image.module.containsExecutable address size = true := by
  unfold RuntimeImage.containsRuntimeRange ModuleImage.containsExecutable
  grind

/-- Instructions that are apart contain no address together. -/
theorem not_contains_of_apart {other : RuntimeImage}
    (hapart : rangesOverlap image.snapshot.isolateInstructionsRuntime
      image.snapshot.isolateInstructionsSize other.snapshot.isolateInstructionsRuntime
      other.snapshot.isolateInstructionsSize = false)
    (h : image.containsRuntimeRange address size = true) :
    ¬other.containsRuntimeRange address size = true := by
  intro hother
  rw [containsRuntimeRange_iff] at h hother
  unfold rangesOverlap at hapart
  split at hapart
  · cases hapart
  next hproper =>
    simp only [not_or] at hproper
    have hend := lt_end h.2.1 h.2.2.1 hproper.2.2.1
    have hotherEnd := lt_end hother.2.1 hother.2.2.1 hproper.2.2.2
    simp only [Bool.and_eq_false_iff, decide_eq_false_iff_not, BitVec.not_lt] at hapart
    rcases hapart with hbefore | hbefore
    · bv_omega
    · bv_omega

/-- An item that no other item of the list passes with is found by its test. -/
theorem findUnique_eq_some_iff {α : Type} {test : α → Bool} {items : List α} {item : α}
    (h : items.Pairwise fun left right => test left = true → ¬test right = true) :
    (findUnique test items).1 = some item ↔ item ∈ items ∧ test item = true := by
  have hpassed := h.filter test
  have hmem : item ∈ items.filter test ↔ item ∈ items ∧ test item = true := mem_filter
  have hall : ∀ other ∈ items.filter test, test other = true := fun _ h => (mem_filter.mp h).2
  rw [← hmem, findUnique]
  cases hfilter : items.filter test with
  | nil => simp only [reduceCtorEq, not_mem_nil]
  | cons first rest =>
    rw [hfilter] at hpassed hall
    cases rest with
    | nil => simp only [Option.some.injEq, mem_singleton, eq_comm]
    | cons second rest =>
      exact absurd (hall second (mem_cons_of_mem _ mem_cons_self))
        (rel_of_pairwise_cons hpassed mem_cons_self (hall first mem_cons_self))

/-- An address is as far into the instructions in the file as it is at run time. -/
theorem offset_iff {base va : BitVec 64} :
    (base ≤ va ∧ va - base ≤ BitVec.allOnes 64 - start ∧ start + (va - base) = address) ↔
      start ≤ address ∧ base ≤ BitVec.allOnes 64 - (address - start) ∧
        base + (address - start) = va := by
  rw [show BitVec.allOnes 64 = 0xffffffffffffffff#64 from rfl]
  constructor
  · rintro ⟨hlow, hfits, rfl⟩
    exact ⟨by bv_omega, by bv_omega, by bv_omega⟩
  · rintro ⟨hlow, hfits, rfl⟩
    exact ⟨by bv_omega, by bv_omega, by bv_omega⟩

/-- Both translations ask for the same offset into the instructions. -/
theorem resolveInstructionVa_iff {va : BitVec 64}
    (hmatches : image.snapshot.matches image.module = true)
    (hmapped : image.snapshot.isolateInstructionsRuntime ≠ 0) :
    image.snapshot.resolveInstructionVa image.module va = some address ↔
      image.runtimeAddressToElfVa address 4 = some va := by
  unfold FlutterSnapshotSource.resolveInstructionVa RuntimeImage.runtimeAddressToElfVa
  simp only [hmatches, ge_iff_le, gt_iff_lt, Option.ite_none_left_eq_some, not_not, true_and,
    Option.ite_none_right_eq_some, Option.some.injEq, not_or, BitVec.not_lt, BitVec.not_le,
    ← Bool.not_eq_true, containsRuntimeRange_iff]
  constructor
  · rintro ⟨⟨hlow, hsize⟩, ⟨hroom, hfits⟩, hexecutable, haddress⟩
    obtain ⟨hstart, hback, rfl⟩ := offset_iff.mp ⟨hlow, hfits, haddress⟩
    rw [BitVec.add_comm, BitVec.add_sub_cancel] at hsize hroom
    exact ⟨⟨hmapped, hstart, hsize, hroom, haddress ▸ hexecutable⟩, hback, rfl⟩
  · rintro ⟨⟨-, hstart, hsize, hroom, hexecutable⟩, hback, hva⟩
    obtain ⟨hlow, hfits, rfl⟩ := offset_iff.mpr ⟨hstart, hback, hva⟩
    rw [BitVec.add_comm, BitVec.add_sub_cancel] at hsize hroom
    exact ⟨⟨hlow, hsize⟩, ⟨hroom, hfits⟩, hexecutable, rfl⟩

end Address

/-- In every set that refreshes publish, an image is found for an address exactly when it contains
it, and the addresses that an image translates into ELF addresses are those that these resolve to. -/
theorem addresses_owned (refreshes : List (List StageImage)) {set : RuntimeImageSet}
    (hset : set ∈ (refreshes.foldl refreshImages {}).published) :
    (∀ address size image, set.findByRuntimeRange address size = some image ↔
      image ∈ set.images ∧ image.containsRuntimeRange address size = true) ∧
    ∀ image ∈ set.images, image.snapshot.isolateInstructionsRuntime ≠ 0 → ∀ address va,
      image.snapshot.resolveInstructionVa image.module va = some address ↔
        image.runtimeAddressToElfVa address 4 = some va := by
  have h := published_sourcesApart refreshes set hset
  refine ⟨fun address size image => findUnique_eq_some_iff ?_, fun image himage hmapped address va =>
    resolveInstructionVa_iff ?_ hmapped⟩
  · exact (pairwise_map.mp h.apart).imp not_contains_of_apart
  · have hconsistent := h.consistent _ (mem_map.mpr ⟨image, himage, rfl⟩)
    simp only [consistentSource, Bool.and_eq_true] at hconsistent
    exact hconsistent.1.1

/-- The unit that was mapped again: the addresses of its instructions, which start at zero in its
file. -/
theorem addresses_owned_reloads :
    ∃ image, ((reloads.take 2).foldl refreshImages {}).current.findByRuntimeRange 0x8004 4 =
      some image ∧ image.snapshot.resolveInstructionVa image.module 4 = some 0x8004 := by
  have howned := addresses_owned (reloads.take 2) mem_cons_self
  let image := ((reloads.take 2).foldl refreshImages {}).current.images.getLast (by decide +kernel)
  exact ⟨image, (howned.1 _ _ image).mpr ⟨getLast_mem _, by decide +kernel⟩,
    (howned.2 image (getLast_mem _) (by decide +kernel) _ _).mpr (by decide +kernel)⟩

end DartPlant
