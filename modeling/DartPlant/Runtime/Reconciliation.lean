import DartPlant.Lib.FreshNames
import DartPlant.Lib.Runs
import DartPlant.Runtime.RuntimeImageSet

/-! # Staging and reconciliation

What a refresh builds before it publishes: a staged set with one image for each logical unit, and
then the tokens `reconcileOwnershipFrom` gives it.

The two kinds of token are renumbered in the same way.  A `Renumbering` is one of them: the slots of
`FreshNames.fill` are kept for images that inherit a token from the published set and empty for those
that get the cursor.  `reconciled_tokens` puts the two together, image by image.
-/

namespace DartPlant
open Runs FreshNames RuntimeImageSet RuntimeImage List

/-- An attempt to add an image to a staged set. -/
inductive StageImage where
  | root (module : ModuleImage) (snapshot : FlutterSnapshotSource) (runtimeGeneration : BitVec 64)
  | deferred (module : ModuleImage) (snapshot : FlutterSnapshotSource) (loadingUnitId : BitVec 32)
    (runtimeGeneration : BitVec 64)

def stageImage (set : RuntimeImageSet) : StageImage → RuntimeImageSet
  | .root module snapshot generation => (RuntimeImageSet.setRoot module snapshot generation).1
  | .deferred module snapshot unit generation =>
    (set.addDeferred module snapshot unit generation).1

/-- The set a refresh stages; attempts that the set refuses add nothing. -/
def stagedSet (staging : List StageImage) : RuntimeImageSet := staging.foldl stageImage {}

/-- The images of a staged set that get a new id, and those that get a new epoch. -/
def RuntimeImageSet.freshIds (set previous : RuntimeImageSet) : Nat :=
  set.images.countP fun image => (previous.inherit image).id == kInvalidRuntimeImageId

def RuntimeImageSet.freshEpochs (set previous : RuntimeImageSet) : Nat :=
  set.images.countP fun image =>
    (previous.inherit image).incarnationEpoch == kInvalidRuntimeImageIncarnationEpoch

/-! ## Staged sets -/

/-- One image for each logical unit, and a root id once there is one. -/
structure Staged (set : RuntimeImageSet) : Prop where
  units : (set.images.map unit).Nodup
  rooted : set.images ≠ [] → set.rootId ≠ kInvalidRuntimeImageId

theorem staged_empty : Staged {} := ⟨nodup_nil, fun h => absurd rfl h⟩

@[simp] theorem allocateId_images (set : RuntimeImageSet) :
    set.allocateId.1.images = set.images := by
  unfold RuntimeImageSet.allocateId
  split <;> rfl

@[simp] theorem allocateId_rootId (set : RuntimeImageSet) :
    set.allocateId.1.rootId = set.rootId := by
  unfold RuntimeImageSet.allocateId
  split <;> rfl

@[simp] theorem allocateIncarnationEpoch_images (set : RuntimeImageSet) :
    set.allocateIncarnationEpoch.1.images = set.images := by
  unfold RuntimeImageSet.allocateIncarnationEpoch
  split <;> rfl

@[simp] theorem allocateIncarnationEpoch_rootId (set : RuntimeImageSet) :
    set.allocateIncarnationEpoch.1.rootId = set.rootId := by
  unfold RuntimeImageSet.allocateIncarnationEpoch
  split <;> rfl

section PushImage
variable {set set' : RuntimeImageSet} {kind : RuntimeImageKind} {loadingUnitId : BitVec 32}
  {module : ModuleImage} {snapshot : FlutterSnapshotSource} {generation : BitVec 64}

theorem pushImage_error {message : String}
    (h : set.pushImage kind loadingUnitId module snapshot generation = (set', .error message)) :
    set'.images = set.images ∧ set'.rootId = set.rootId := by
  unfold RuntimeImageSet.pushImage at h
  dsimp only at h
  split at h
  · simp only [Prod.mk.injEq] at h
    rw [← h.1]
    simp only [allocateIncarnationEpoch_images, allocateId_images, allocateIncarnationEpoch_rootId,
      allocateId_rootId, and_self]
  · simp only [Prod.mk.injEq, reduceCtorEq, and_false] at h

theorem pushImage_ok {id : RuntimeImageId}
    (h : set.pushImage kind loadingUnitId module snapshot generation = (set', .ok id)) :
    set'.images.map unit = set.images.map unit ++ [(kind, loadingUnitId)] ∧
      set'.rootId = set.rootId ∧ id ≠ kInvalidRuntimeImageId := by
  unfold RuntimeImageSet.pushImage at h
  dsimp only at h
  split at h
  · simp only [Prod.mk.injEq, reduceCtorEq, and_false] at h
  · next hvalid =>
    simp only [Prod.mk.injEq, Except.ok.injEq] at h
    obtain ⟨rfl, rfl⟩ := h
    refine ⟨?_, ?_, (not_or.mp hvalid).1⟩
    · simp only [allocateIncarnationEpoch_images, allocateId_images, map_append, map_cons,
        map_nil, unit]
    · simp only [allocateIncarnationEpoch_rootId, allocateId_rootId]

end PushImage

theorem setRoot_staged (module : ModuleImage) (snapshot : FlutterSnapshotSource)
    (generation : BitVec 64) : Staged (RuntimeImageSet.setRoot module snapshot generation).1 := by
  unfold RuntimeImageSet.setRoot
  split
  · exact staged_empty
  · split
    · next hpush =>
      obtain ⟨himages, -⟩ := pushImage_error hpush
      refine ⟨?_, fun h => absurd himages h⟩
      rw [himages]
      exact nodup_nil
    · next hpush =>
      obtain ⟨hunits, -, hid⟩ := pushImage_ok hpush
      refine ⟨?_, fun _ => hid⟩
      show (List.map unit _).Nodup
      rw [hunits]
      exact nodup_singleton _

theorem deferredConflict_none {module : ModuleImage} {snapshot : FlutterSnapshotSource}
    {loadingUnitId : BitVec 32} {existing : RuntimeImage}
    (h : RuntimeImageSet.deferredConflict module snapshot loadingUnitId existing = none) :
    existing.loadingUnitId ≠ loadingUnitId := by
  intro heq
  simp only [RuntimeImageSet.deferredConflict, if_pos heq, reduceCtorEq] at h

theorem addDeferred_staged {set : RuntimeImageSet} (h : Staged set) (module : ModuleImage)
    (snapshot : FlutterSnapshotSource) (loadingUnitId : BitVec 32) (generation : BitVec 64) :
    Staged (set.addDeferred module snapshot loadingUnitId generation).1 := by
  unfold RuntimeImageSet.addDeferred
  cases hroot : set.root with
  | none => exact h
  | some root =>
    dsimp only
    split
    · exact h
    · cases hconflict : set.images.findSome?
          (RuntimeImageSet.deferredConflict module snapshot loadingUnitId) with
      | some message => exact h
      | none =>
        dsimp only
        split
        · next hpush =>
          obtain ⟨himages, hrootId⟩ := pushImage_error hpush
          refine ⟨?_, ?_⟩
          · rw [himages]
            exact h.units
          · rw [himages, hrootId]
            exact h.rooted
        · next hpush =>
          obtain ⟨hunits, hrootId, -⟩ := pushImage_ok hpush
          refine ⟨?_, fun _ => ?_⟩
          · rw [hunits, nodup_append]
            refine ⟨h.units, nodup_singleton _, ?_⟩
            intro unit hmem other hother
            obtain ⟨existing, hexisting, rfl⟩ := mem_map.mp hmem
            rw [mem_singleton.mp hother]
            intro heq
            exact deferredConflict_none (List.findSome?_eq_none_iff.mp hconflict _ hexisting)
              (congrArg Prod.snd heq)
          · rw [hrootId]
            refine h.rooted fun hnil => ?_
            unfold RuntimeImageSet.root RuntimeImageSet.findById at hroot
            rw [hnil] at hroot
            split at hroot
            · cases hroot
            · cases hroot

theorem stagedSet_staged (staging : List StageImage) : Staged (stagedSet staging) := by
  have hstep : ∀ (set : RuntimeImageSet) (image : StageImage), Staged set → True →
      Staged (stageImage set image) := by
    intro set image h _
    cases image with
    | root module snapshot generation => exact setRoot_staged module snapshot generation
    | deferred module snapshot unit generation => exact addDeferred_staged h _ _ _ _
  exact along_of_invariant (R := fun _ _ => True) hstep (fun _ _ _ => trivial) staged_empty
    staging (prefix_refl _)

/-! ## Reconciliation -/

/-- The slot of a token that is kept when it is valid. -/
def tokenSlot (token : BitVec 64) : Option (BitVec 64) := if token = 0#64 then none else some token

theorem toNat_pos_iff {token : BitVec 64} : 0 < token.toNat ↔ token ≠ 0#64 := by
  rw [Nat.pos_iff_ne_zero, ne_eq, ne_eq, ← BitVec.toNat_inj, BitVec.toNat_ofNat]

theorem tokenSlot_eq_some {token other : BitVec 64} :
    tokenSlot token = some other ↔ token ≠ 0#64 ∧ token = other := by
  unfold tokenSlot
  split
  · next h => simp only [reduceCtorEq, ne_eq, h, not_true_eq_false, false_and]
  · next h => simp only [Option.some.injEq, ne_eq, h, not_false_eq_true, true_and]

theorem tokenSlot_eq_none {token : BitVec 64} : tokenSlot token = none ↔ token = 0#64 := by
  unfold tokenSlot
  split
  · next h => simp only [h]
  · next h => simp only [reduceCtorEq, h]

section Assign
variable (nextId : RuntimeImageId) (nextEpoch : RuntimeImageIncarnationEpoch)
  (rootId : RuntimeImageId) (images : List RuntimeImage)

theorem assignTokens_ids :
    (RuntimeImageSet.assignTokens nextId nextEpoch rootId images).images.map RuntimeImage.id =
      fill (· + 1#64) nextId (images.map fun image => tokenSlot image.id) ∧
    (RuntimeImageSet.assignTokens nextId nextEpoch rootId images).nextId =
      cursorAfter (· + 1#64) nextId (images.map fun image => tokenSlot image.id) := by
  induction images generalizing nextId nextEpoch rootId with
  | nil => exact ⟨rfl, rfl⟩
  | cons image rest ih =>
    simp only [RuntimeImageSet.assignTokens, map_cons, tokenSlot]
    split
    · simp only [fill, cursorAfter, (ih _ _ _).1, (ih _ _ _).2, tokenSlot]
      exact ⟨rfl, rfl⟩
    · simp only [fill, cursorAfter, (ih _ _ _).1, (ih _ _ _).2, tokenSlot, and_self]

theorem assignTokens_epochs :
    (RuntimeImageSet.assignTokens nextId nextEpoch rootId images).images.map
        RuntimeImage.incarnationEpoch =
      fill (· + 1#64) nextEpoch (images.map fun image => tokenSlot image.incarnationEpoch) ∧
    (RuntimeImageSet.assignTokens nextId nextEpoch rootId images).nextIncarnationEpoch =
      cursorAfter (· + 1#64) nextEpoch
        (images.map fun image => tokenSlot image.incarnationEpoch) := by
  induction images generalizing nextId nextEpoch rootId with
  | nil => exact ⟨rfl, rfl⟩
  | cons image rest ih =>
    simp only [RuntimeImageSet.assignTokens, map_cons, tokenSlot]
    split
    · simp only [fill, cursorAfter, (ih _ _ _).1, (ih _ _ _).2, tokenSlot]
      exact ⟨rfl, rfl⟩
    · simp only [fill, cursorAfter, (ih _ _ _).1, (ih _ _ _).2, tokenSlot, and_self]

theorem assignTokens_physical :
    (RuntimeImageSet.assignTokens nextId nextEpoch rootId images).images.map
      physical = images.map physical := by
  induction images generalizing nextId nextEpoch rootId with
  | nil => rfl
  | cons image rest ih =>
    simp only [RuntimeImageSet.assignTokens, map_cons, ih]
    rfl

/-- The root id is the old one or one of the assigned ids. -/
theorem assignTokens_rootId :
    (RuntimeImageSet.assignTokens nextId nextEpoch rootId images).rootId = rootId ∨
      (RuntimeImageSet.assignTokens nextId nextEpoch rootId images).rootId ∈
        (RuntimeImageSet.assignTokens nextId nextEpoch rootId images).images.map
          RuntimeImage.id := by
  induction images generalizing nextId nextEpoch rootId with
  | nil => exact Or.inl rfl
  | cons image rest ih =>
    simp only [RuntimeImageSet.assignTokens, map_cons, mem_cons]
    rcases ih (if image.id = kInvalidRuntimeImageId then nextId + 1 else nextId)
        (if image.incarnationEpoch = kInvalidRuntimeImageIncarnationEpoch then nextEpoch + 1
          else nextEpoch)
        (if image.kind = .root then
          if image.id = kInvalidRuntimeImageId then nextId else image.id else rootId) with h | h
    · rw [h]
      by_cases hkind : image.kind = .root
      · rw [if_pos hkind]
        exact Or.inr (Or.inl rfl)
      · rw [if_neg hkind]
        exact Or.inl rfl
    · exact Or.inr (Or.inr h)

end Assign

/-- One kind of token in a set: the tokens are distinct and lie below a cursor that is not zero. -/
structure Numbered (token : RuntimeImage → BitVec 64) (cursor : RuntimeImageSet → BitVec 64)
    (set : RuntimeImageSet) : Prop where
  positive : 0 < (cursor set).toNat
  nodup : (set.images.map token).Nodup
  range : ∀ image ∈ set.images, 0 < (token image).toNat ∧
    (token image).toNat < (cursor set).toNat

/-- A published set: both kinds of token, and one image for each logical unit. -/
structure WellNumbered (set : RuntimeImageSet) : Prop where
  units : (set.images.map unit).Nodup
  ids : Numbered RuntimeImage.id RuntimeImageSet.nextId set
  epochs : Numbered RuntimeImage.incarnationEpoch nextIncarnationEpoch set

theorem wellNumbered_empty : WellNumbered {} where
  units := nodup_nil
  ids := ⟨Nat.one_pos, nodup_nil, fun _ h => absurd h not_mem_nil⟩
  epochs := ⟨Nat.one_pos, nodup_nil, fun _ h => absurd h not_mem_nil⟩

/-- In a set with one image for each unit, the unit determines the image. -/
theorem WellNumbered.eq_of_unit {set : RuntimeImageSet} (h : WellNumbered set)
    {image other : RuntimeImage} (hi : image ∈ set.images) (ho : other ∈ set.images)
    (hunit : image.unit = other.unit) : image = other :=
  inj_on_of_nodup_map h.units hi ho hunit

theorem unit_of_physical {image other : RuntimeImage} (h : image.physical = other.physical) :
    image.unit = other.unit := congrArg Prod.fst h

section Inherit
variable {previous : RuntimeImageSet} {image old : RuntimeImage}

/-- The three cases of the first loop. -/
theorem inherit_exact (hp : WellNumbered previous) (hold : old ∈ previous.images)
    (h : image.physical = old.physical) :
    previous.inherit image =
      { image with id := old.id, incarnationEpoch := old.incarnationEpoch } := by
  unfold RuntimeImageSet.inherit
  cases hfind : previous.images.find? (sameImageIdentity image) with
  | none =>
    have hno := List.find?_eq_none.mp hfind old hold
    exact absurd (sameImageIdentity_iff.mpr h) hno
  | some exact =>
    have hsame := sameImageIdentity_iff.mp (List.find?_some hfind)
    have heq : exact = old := hp.eq_of_unit (mem_of_find?_eq_some hfind) hold
      (unit_of_physical (hsame.symm.trans h))
    rw [heq]

theorem inherit_logical (hp : WellNumbered previous) (hold : old ∈ previous.images)
    (hunit : image.unit = old.unit) (hne : image.physical ≠ old.physical) :
    previous.inherit image =
      { image with id := old.id, incarnationEpoch := kInvalidRuntimeImageIncarnationEpoch } := by
  unfold RuntimeImageSet.inherit
  have hexact : previous.images.find? (sameImageIdentity image) = none := by
    refine List.find?_eq_none.mpr fun other hother hsame => hne ?_
    have hphysical := sameImageIdentity_iff.mp hsame
    rw [hp.eq_of_unit hold hother (hunit.symm.trans (unit_of_physical hphysical))]
    exact hphysical
  rw [hexact]
  dsimp only
  cases hfind : previous.images.find? (fun old =>
      image.kind == old.kind && image.loadingUnitId == old.loadingUnitId) with
  | none =>
    have hno := List.find?_eq_none.mp hfind old hold
    simp only [unit, Prod.mk.injEq] at hunit
    simp only [hunit.1, hunit.2, beq_self_eq_true, Bool.and_self, not_true_eq_false] at hno
  | some found =>
    have hmatch := List.find?_some hfind
    simp only [Bool.and_eq_true, beq_iff_eq] at hmatch
    have heq : found = old := by
      refine hp.eq_of_unit (mem_of_find?_eq_some hfind) hold ?_
      rw [← hunit]
      exact Prod.ext hmatch.1.symm hmatch.2.symm
    rw [heq]
    rfl

theorem inherit_new (h : ∀ old ∈ previous.images, image.unit ≠ old.unit) :
    previous.inherit image =
      { image with
        id := kInvalidRuntimeImageId
        incarnationEpoch := kInvalidRuntimeImageIncarnationEpoch } := by
  unfold RuntimeImageSet.inherit
  have hexact : previous.images.find? (sameImageIdentity image) = none :=
    List.find?_eq_none.mpr fun old hold hsame =>
      h old hold (unit_of_physical (sameImageIdentity_iff.mp hsame))
  have hlogical : previous.images.find? (fun old =>
      image.kind == old.kind && image.loadingUnitId == old.loadingUnitId) = none := by
    refine List.find?_eq_none.mpr fun old hold hmatch => h old hold ?_
    simp only [Bool.and_eq_true, beq_iff_eq] at hmatch
    exact Prod.ext hmatch.1 hmatch.2
  rw [hexact, hlogical]
  rfl

theorem inherit_physical (previous : RuntimeImageSet) (image : RuntimeImage) :
    (previous.inherit image).physical = image.physical := by
  unfold RuntimeImageSet.inherit
  split <;> rfl

/-- An image inherits a token only from the previous image of its unit. -/
theorem inherit_token (hp : WellNumbered previous) :
    (∀ id, tokenSlot (previous.inherit image).id = some id →
      ∃ old ∈ previous.images, image.unit = old.unit ∧ old.id = id) ∧
    ∀ epoch, tokenSlot (previous.inherit image).incarnationEpoch = some epoch →
      ∃ old ∈ previous.images, image.physical = old.physical ∧ old.incarnationEpoch = epoch := by
  by_cases hlogical : ∃ old ∈ previous.images, image.unit = old.unit
  · obtain ⟨old, hold, hunit⟩ := hlogical
    by_cases hphysical : image.physical = old.physical
    · rw [inherit_exact hp hold hphysical]
      exact ⟨fun id h => ⟨old, hold, hunit, (tokenSlot_eq_some.mp h).2⟩,
        fun epoch h => ⟨old, hold, hphysical, (tokenSlot_eq_some.mp h).2⟩⟩
    · rw [inherit_logical hp hold hunit hphysical]
      exact ⟨fun id h => ⟨old, hold, hunit, (tokenSlot_eq_some.mp h).2⟩,
        fun epoch h => absurd rfl (tokenSlot_eq_some.mp h).1⟩
  · rw [inherit_new fun old hold hunit => hlogical ⟨old, hold, hunit⟩]
    exact ⟨fun id h => absurd rfl (tokenSlot_eq_some.mp h).1,
      fun epoch h => absurd rfl (tokenSlot_eq_some.mp h).1⟩

end Inherit

/-! ## One refresh -/

section Reconcile
variable {previous set next : RuntimeImageSet} {token : RuntimeImage → BitVec 64}
  {cursor : RuntimeImageSet → BitVec 64}

/-- The slots of one kind of token in the inherited images. -/
def inheritedSlots (token : RuntimeImage → BitVec 64) (set previous : RuntimeImageSet) :
    List (Option (BitVec 64)) :=
  set.images.map fun image => tokenSlot (token (previous.inherit image))

/-- What the renumbering of one kind of token starts from: the tokens of the next set fill the
inherited slots, and a slot is kept only from the previous image of the same unit. -/
structure Renumbering (token : RuntimeImage → BitVec 64) (cursor : RuntimeImageSet → BitVec 64)
    (set previous next : RuntimeImageSet) : Prop where
  numbered : Numbered token cursor previous
  units : (set.images.map unit).Nodup
  inherited : ∀ image t, tokenSlot (token (previous.inherit image)) = some t →
    ∃ old ∈ previous.images, image.unit = old.unit ∧ token old = t
  room : Room BitVec.toNat (· + 1#64) (cursor previous) (inheritedSlots token set previous)
  tokens : next.images.map token =
    fill (· + 1#64) (cursor previous) (inheritedSlots token set previous)
  after : cursor next =
    cursorAfter (· + 1#64) (cursor previous) (inheritedSlots token set previous)

theorem Renumbering.kept (h : Renumbering token cursor set previous next) {t : BitVec 64}
    (ht : some t ∈ inheritedSlots token set previous) :
    0 < t.toNat ∧ t.toNat < (cursor previous).toNat := by
  obtain ⟨image, -, hslot⟩ := mem_map.mp ht
  obtain ⟨old, hold, -, rfl⟩ := h.inherited image t hslot
  exact h.numbered.range old hold

theorem Renumbering.cursor_le (h : Renumbering token cursor set previous next) :
    (cursor previous).toNat ≤ (cursor next).toNat := by
  rw [h.after]
  exact h.room.le_cursorAfter

/-- Slots filled from the previous images of distinct units hold distinct tokens. -/
theorem Renumbering.kept_nodup (h : Renumbering token cursor set previous next) :
    ((inheritedSlots token set previous).filterMap id).Nodup := by
  rw [inheritedSlots, filterMap_map]
  refine pairwise_filterMap.mpr ((pairwise_map.mp h.units).imp ?_)
  intro image other hne t ht t' ht' heq
  obtain ⟨old, hold, hunit, rfl⟩ := h.inherited image t ht
  obtain ⟨old', hold', hunit', rfl⟩ := h.inherited other t' ht'
  have hsame : old = old' := inj_on_of_nodup_map h.numbered.nodup hold hold' heq
  exact hne (hunit.trans (hsame ▸ hunit'.symm))

/-- The next set is numbered again. -/
theorem Renumbering.numbered_next (h : Renumbering token cursor set previous next) :
    Numbered token cursor next where
  positive := h.numbered.positive.trans_le h.cursor_le
  nodup := by
    rw [h.tokens]
    exact fill_nodup h.room (fun t ht => (h.kept ht).2) h.kept_nodup
  range := by
    intro image himage
    have hmem := mem_map_of_mem (f := token) himage
    rw [h.tokens] at hmem
    refine ⟨?_, ?_⟩
    · rcases mem_fill h.room hmem with hkept | ⟨hle, -⟩
      · exact (h.kept hkept).1
      · exact h.numbered.positive.trans_le hle
    · rw [h.after]
      exact lt_of_mem_fill h.room (fun t ht => (h.kept ht).2) hmem

/-- Where the token of a reconciled image comes from. -/
def TokenFrom (token : RuntimeImage → BitVec 64) (cursor : RuntimeImageSet → BitVec 64)
    (previous next : RuntimeImageSet) (staged image : RuntimeImage) : Prop :=
  match tokenSlot (token (previous.inherit staged)) with
  | some t => token image = t
  | none => (cursor previous).toNat ≤ (token image).toNat ∧
      (token image).toNat < (cursor next).toNat

theorem Renumbering.forall₂ (h : Renumbering token cursor set previous next) :
    List.Forall₂ (TokenFrom token cursor previous next) set.images next.images := by
  have hfill := fill_forall₂ h.room
  rw [← h.tokens, inheritedSlots, forall₂_map_left_iff, forall₂_map_right_iff] at hfill
  refine hfill.imp fun staged image hR => ?_
  unfold TokenFrom
  cases hslot : tokenSlot (token (previous.inherit staged)) with
  | some t =>
    rw [hslot] at hR
    exact hR
  | none =>
    rw [hslot] at hR
    rw [h.after]
    exact hR

theorem countP_slots (token : RuntimeImage → BitVec 64) (set previous : RuntimeImageSet) :
    (inheritedSlots token set previous).countP Option.isNone =
      set.images.countP fun image => token (previous.inherit image) == 0#64 := by
  rw [inheritedSlots, countP_map]
  refine countP_congr fun image _ => ?_
  simp only [Function.comp_apply, Option.isNone_iff_eq_none, tokenSlot_eq_none, beq_iff_eq]

theorem WellNumbered.tokensBelowCursors (h : WellNumbered previous) :
    previous.tokensBelowCursors = true := by
  simp only [RuntimeImageSet.tokensBelowCursors, all_eq_true, Bool.and_eq_true,
    decide_eq_true_eq, BitVec.lt_def]
  intro image himage
  obtain ⟨hid, hidlt⟩ := h.ids.range image himage
  obtain ⟨hepoch, hepochlt⟩ := h.epochs.range image himage
  exact ⟨⟨⟨toNat_pos_iff.mp hid, hidlt⟩, toNat_pos_iff.mp hepoch⟩, hepochlt⟩

/-- The reconciled set. -/
def RuntimeImageSet.reconciled (set previous : RuntimeImageSet) : RuntimeImageSet :=
  assignTokens previous.nextId previous.nextIncarnationEpoch set.rootId
    (set.images.map previous.inherit)

theorem reconciled_ids (hp : WellNumbered previous) (hs : Staged set)
    (hroom : previous.nextId.toNat + set.freshIds previous < 2 ^ 64) :
    Renumbering RuntimeImage.id RuntimeImageSet.nextId set previous (set.reconciled previous) where
  numbered := hp.ids
  units := hs.units
  inherited := fun _ => (inherit_token hp).1
  room := room_bitVec (by rw [countP_slots]; exact hroom)
  tokens := by
    have h := (assignTokens_ids previous.nextId previous.nextIncarnationEpoch set.rootId
      (set.images.map previous.inherit)).1
    rwa [map_map] at h
  after := by
    have h := (assignTokens_ids previous.nextId previous.nextIncarnationEpoch set.rootId
      (set.images.map previous.inherit)).2
    rwa [map_map] at h

theorem reconciled_epochs (hp : WellNumbered previous) (hs : Staged set)
    (hroom : previous.nextIncarnationEpoch.toNat + set.freshEpochs previous < 2 ^ 64) :
    Renumbering RuntimeImage.incarnationEpoch nextIncarnationEpoch set previous
      (set.reconciled previous) where
  numbered := hp.epochs
  units := hs.units
  inherited := by
    intro image t ht
    obtain ⟨old, hold, hsame, heq⟩ := (inherit_token hp).2 t ht
    exact ⟨old, hold, unit_of_physical hsame, heq⟩
  room := room_bitVec (by rw [countP_slots]; exact hroom)
  tokens := by
    have h := (assignTokens_epochs previous.nextId previous.nextIncarnationEpoch set.rootId
      (set.images.map previous.inherit)).1
    rwa [map_map] at h
  after := by
    have h := (assignTokens_epochs previous.nextId previous.nextIncarnationEpoch set.rootId
      (set.images.map previous.inherit)).2
    rwa [map_map] at h

theorem reconciled_physical (set previous : RuntimeImageSet) :
    (set.reconciled previous).images.map physical =
      set.images.map physical := by
  rw [reconciled, assignTokens_physical, map_map]
  exact map_congr_left fun image _ => inherit_physical previous image

theorem reconciled_units (set previous : RuntimeImageSet) :
    (set.reconciled previous).images.map unit = set.images.map unit := by
  have h := congrArg (List.map Prod.fst) (reconciled_physical set previous)
  rwa [map_map, map_map] at h

/-- A refresh with room for its tokens is accepted. -/
theorem reconcileOwnershipFrom_accepts (hp : WellNumbered previous) (hs : Staged set)
    (hn : Numbered RuntimeImage.id RuntimeImageSet.nextId (set.reconciled previous)) :
    set.reconcileOwnershipFrom previous = (set.reconciled previous, true) := by
  have hvalid : ¬ (previous.nextId = kInvalidRuntimeImageId ∨
      previous.nextIncarnationEpoch = kInvalidRuntimeImageIncarnationEpoch) :=
    not_or.mpr ⟨toNat_pos_iff.mp hp.ids.positive, toNat_pos_iff.mp hp.epochs.positive⟩
  unfold RuntimeImageSet.reconcileOwnershipFrom
  rw [if_neg hvalid, hp.tokensBelowCursors, if_neg (by decide)]
  refine Prod.ext rfl ?_
  show ((set.reconciled previous).images.isEmpty ||
    decide ((set.reconciled previous).rootId ≠ kInvalidRuntimeImageId)) = true
  by_cases hempty : set.images = []
  · have hnil : (set.reconciled previous).images = [] := by
      rw [← map_eq_nil_iff (f := unit), reconciled_units, hempty]
      rfl
    rw [hnil]
    rfl
  · have hroot : (set.reconciled previous).rootId ≠ kInvalidRuntimeImageId := by
      rcases assignTokens_rootId previous.nextId previous.nextIncarnationEpoch set.rootId
          (set.images.map previous.inherit) with hroot | hroot
      · rw [reconciled, hroot]
        exact hs.rooted hempty
      · obtain ⟨image, hmem, heq⟩ := mem_map.mp hroot
        rw [reconciled, ← heq]
        exact toNat_pos_iff.mp (hn.range image hmem).1
    rw [decide_eq_true hroot, Bool.or_true]

/-- Every reconciled image comes from a staged one, with each token inherited or fresh. -/
theorem reconciled_source
    (hids : Renumbering RuntimeImage.id RuntimeImageSet.nextId set previous
      (set.reconciled previous))
    (hepochs : Renumbering RuntimeImage.incarnationEpoch nextIncarnationEpoch set
      previous (set.reconciled previous))
    {image : RuntimeImage} (himage : image ∈ (set.reconciled previous).images) :
    ∃ staged ∈ set.images, staged.physical = image.physical ∧
      TokenFrom RuntimeImage.id RuntimeImageSet.nextId previous (set.reconciled previous) staged
        image ∧
      TokenFrom RuntimeImage.incarnationEpoch nextIncarnationEpoch previous
        (set.reconciled previous) staged image := by
  have hmaps : List.Forall₂ (· = ·) (set.images.map physical)
      ((set.reconciled previous).images.map physical) := by
    rw [forall₂_eq_eq_eq, reconciled_physical]
  have hphysical := forall₂_map_right_iff.mp (forall₂_map_left_iff.mp hmaps)
  have htokens := List.Forall₂.mp (fun _ _ hid hepoch => And.intro hid hepoch) hids.forall₂
    hepochs.forall₂
  have hall := List.Forall₂.mp (fun _ _ hsame htoken => And.intro hsame htoken) hphysical htokens
  exact exists_of_mem_right hall himage

/-- What reconciliation does to the tokens of one image, by the previous image of its unit. -/
theorem reconciled_tokens (hp : WellNumbered previous)
    (hids : Renumbering RuntimeImage.id RuntimeImageSet.nextId set previous
      (set.reconciled previous))
    (hepochs : Renumbering RuntimeImage.incarnationEpoch nextIncarnationEpoch set
      previous (set.reconciled previous))
    {image : RuntimeImage} (himage : image ∈ (set.reconciled previous).images) :
    (∃ old ∈ previous.images, image.physical = old.physical ∧ image.id = old.id ∧
        image.incarnationEpoch = old.incarnationEpoch) ∨
      (∃ old ∈ previous.images, image.unit = old.unit ∧ image.physical ≠ old.physical ∧
        image.id = old.id ∧
        previous.nextIncarnationEpoch.toNat ≤ image.incarnationEpoch.toNat) ∨
      ((∀ old ∈ previous.images, image.unit ≠ old.unit) ∧
        previous.nextId.toNat ≤ image.id.toNat ∧
        previous.nextIncarnationEpoch.toNat ≤ image.incarnationEpoch.toNat) := by
  obtain ⟨staged, -, hsame, hid, hepoch⟩ := reconciled_source hids hepochs himage
  have hunit : staged.unit = image.unit := unit_of_physical hsame
  have hzero : tokenSlot 0#64 = none := rfl
  unfold TokenFrom at hid hepoch
  by_cases hlogical : ∃ old ∈ previous.images, image.unit = old.unit
  · obtain ⟨old, hold, holdUnit⟩ := hlogical
    have hidSlot : tokenSlot old.id = some old.id :=
      tokenSlot_eq_some.mpr ⟨toNat_pos_iff.mp (hp.ids.range old hold).1, rfl⟩
    by_cases hphysical : image.physical = old.physical
    · have hepochSlot : tokenSlot old.incarnationEpoch = some old.incarnationEpoch :=
        tokenSlot_eq_some.mpr ⟨toNat_pos_iff.mp (hp.epochs.range old hold).1, rfl⟩
      rw [inherit_exact hp hold (hsame.trans hphysical)] at hid hepoch
      simp only [hidSlot] at hid
      simp only [hepochSlot] at hepoch
      exact Or.inl ⟨old, hold, hphysical, hid, hepoch⟩
    · rw [inherit_logical hp hold (hunit.trans holdUnit) (hsame ▸ hphysical)] at hid hepoch
      simp only [hidSlot] at hid
      simp only [hzero] at hepoch
      exact Or.inr (Or.inl ⟨old, hold, holdUnit, hphysical, hid, hepoch.1⟩)
  · have hnew : ∀ old ∈ previous.images, image.unit ≠ old.unit := fun old hold heq =>
      hlogical ⟨old, hold, heq⟩
    rw [inherit_new (hunit ▸ hnew)] at hid hepoch
    simp only [hzero] at hid hepoch
    exact Or.inr (Or.inr ⟨hnew, hid.1, hepoch.1⟩)

end Reconcile

end DartPlant
