import DartPlant.Runtime.Reconciliation

/-! # Ownership tokens across refreshes

Each refresh stages a set of images with its own token cursors, reconciles it with the published
set, and publishes it.  An image's token is its id, which names a logical unit while that unit stays
loaded, and its incarnation epoch, which names one physical image for ever.

The history only has to remember that everything ever published lies below the current cursors:
`Owned` says so, and one refresh keeps it.
-/

namespace DartPlant
open Runs

/-- The published set, and the sets published before it, the latest first. -/
structure ImageHistory where
  current : RuntimeImageSet := {}
  past : List RuntimeImageSet := []

def ImageHistory.published (history : ImageHistory) : List RuntimeImageSet :=
  history.current :: history.past

/-- One refresh. -/
def refreshImages (history : ImageHistory) (staging : List StageImage) : ImageHistory :=
  match (stagedSet staging).reconcileOwnershipFrom history.current with
  | (set, true) => ⟨set, history.published⟩
  | (_, false) => history

/-- A refresh allocates fewer tokens than the cursors have left. -/
def CursorsNotExhausted (history : ImageHistory) (staging : List StageImage) : Prop :=
  history.current.nextId.toNat + (stagedSet staging).freshIds history.current < 2 ^ 64 ∧
    history.current.nextIncarnationEpoch.toNat + (stagedSet staging).freshEpochs history.current <
      2 ^ 64

def UnusedId (sets : List RuntimeImageSet) (id : RuntimeImageId) : Prop :=
  ∀ set ∈ sets, ∀ image ∈ set.images, image.id ≠ id

def UnusedEpoch (sets : List RuntimeImageSet) (epoch : RuntimeImageIncarnationEpoch) : Prop :=
  ∀ set ∈ sets, ∀ image ∈ set.images, image.incarnationEpoch ≠ epoch

/-- What one refresh may do to the tokens, with `past` everything published before it. -/
structure TokensCarried (current previous : RuntimeImageSet) (past : List RuntimeImageSet) :
    Prop where
  survivor : ∀ image ∈ current.images, ∀ old ∈ previous.images,
    sameImageIdentity image old = true →
      image.id = old.id ∧ image.incarnationEpoch = old.incarnationEpoch
  replacement : ∀ image ∈ current.images, ∀ old ∈ previous.images, image.unit = old.unit →
    sameImageIdentity image old = false →
      image.id = old.id ∧ UnusedEpoch past image.incarnationEpoch
  newUnit : ∀ image ∈ current.images, (∀ old ∈ previous.images, image.unit ≠ old.unit) →
    UnusedId past image.id ∧ UnusedEpoch past image.incarnationEpoch

/-- Tokens are distinct and allocated in every published set, the last refresh carried them over,
and no pair of them ever denotes two physical images. -/
structure TokensNeverReused (history : ImageHistory) : Prop where
  distinct : ∀ set ∈ history.published, (set.images.map RuntimeImage.id).Nodup ∧
    (set.images.map RuntimeImage.incarnationEpoch).Nodup
  allocated : ∀ set ∈ history.published, ∀ image ∈ set.images, image.id < set.nextId ∧
    image.incarnationEpoch < set.nextIncarnationEpoch
  carried : ∀ previous ∈ history.past.head?, TokensCarried history.current previous history.past
  denotation : ∀ s ∈ history.published, ∀ t ∈ history.published, ∀ x ∈ s.images, ∀ y ∈ t.images,
    x.id = y.id → x.incarnationEpoch = y.incarnationEpoch → sameImageIdentity x y = true

/-! ## The history -/

/-- The invariant: every published set is well numbered below the current cursors, and an epoch
denotes one physical image for ever. -/
structure Owned (history : ImageHistory) : Prop where
  numbered : ∀ set ∈ history.published, WellNumbered set
  below : ∀ set ∈ history.published, set.nextId.toNat ≤ history.current.nextId.toNat ∧
    set.nextIncarnationEpoch.toNat ≤ history.current.nextIncarnationEpoch.toNat
  incarnation : ∀ s ∈ history.published, ∀ t ∈ history.published, ∀ x ∈ s.images, ∀ y ∈ t.images,
    x.incarnationEpoch = y.incarnationEpoch → x.physical = y.physical
  carried : ∀ previous ∈ history.past.head?, TokensCarried history.current previous history.past

theorem owned_empty : Owned {} where
  numbered := by
    intro set h
    rw [List.mem_singleton.mp h]
    exact wellNumbered_empty
  below := by
    intro set h
    rw [List.mem_singleton.mp h]
    exact ⟨le_refl _, le_refl _⟩
  incarnation := by
    intro s hs t _ x hx
    rw [List.mem_singleton.mp hs] at hx
    exact absurd hx List.not_mem_nil
  carried := fun _ h => nomatch h

section History
variable {history : ImageHistory} {staging : List StageImage}

theorem Owned.unusedEpoch (h : Owned history) {epoch : RuntimeImageIncarnationEpoch}
    (hle : history.current.nextIncarnationEpoch.toNat ≤ epoch.toNat) :
    UnusedEpoch history.published epoch := by
  intro set hset image himage heq
  have hlt := ((h.numbered set hset).epochs.range image himage).2
  have hbelow := (h.below set hset).2
  rw [heq] at hlt
  omega

theorem Owned.unusedId (h : Owned history) {id : RuntimeImageId}
    (hle : history.current.nextId.toNat ≤ id.toNat) : UnusedId history.published id := by
  intro set hset image himage heq
  have hlt := ((h.numbered set hset).ids.range image himage).2
  have hbelow := (h.below set hset).1
  rw [heq] at hlt
  omega

/-- A refresh with room keeps the invariant. -/
theorem Owned.refresh (h : Owned history) (hroom : CursorsNotExhausted history staging) :
    Owned (refreshImages history staging) := by
  have hp : WellNumbered history.current := h.numbered _ List.mem_cons_self
  have hs := stagedSet_staged staging
  have hids := reconciled_ids hp hs hroom.1
  have hepochs := reconciled_epochs hp hs hroom.2
  have hnext : refreshImages history staging =
      ⟨(stagedSet staging).reconciled history.current, history.published⟩ := by
    unfold refreshImages
    rw [reconcileOwnershipFrom_accepts hp hs hids.numbered_next]
  have hsource : ∀ x ∈ ((stagedSet staging).reconciled history.current).images,
      ∀ t ∈ history.published, ∀ y ∈ t.images, x.incarnationEpoch = y.incarnationEpoch →
        x.physical = y.physical := by
    intro x hx t ht y hy heq
    have hfresh : history.current.nextIncarnationEpoch.toNat ≤ x.incarnationEpoch.toNat →
        x.physical = y.physical := fun hle =>
      absurd heq.symm (h.unusedEpoch hle t ht y hy)
    rcases reconciled_tokens hp hids hepochs hx with
      ⟨old, hold, hsame, -, hepoch⟩ | ⟨-, -, -, -, -, hle⟩ | ⟨-, -, hle⟩
    · rw [hsame]
      exact h.incarnation _ List.mem_cons_self t ht old hold y hy (hepoch.symm.trans heq)
    · exact hfresh hle
    · exact hfresh hle
  rw [hnext]
  refine ⟨?_, ?_, ?_, ?_⟩
  · intro set hset
    rcases List.mem_cons.mp hset with rfl | hset
    · exact ⟨by rw [reconciled_units]; exact hs.units, hids.numbered_next, hepochs.numbered_next⟩
    · exact h.numbered set hset
  · intro set hset
    rcases List.mem_cons.mp hset with rfl | hset
    · exact ⟨le_refl _, le_refl _⟩
    · exact ⟨(h.below set hset).1.trans hids.cursor_le,
        (h.below set hset).2.trans hepochs.cursor_le⟩
  · intro s hs' t ht x hx y hy heq
    rcases List.mem_cons.mp hs' with rfl | hs'
    · rcases List.mem_cons.mp ht with rfl | ht
      · rw [List.inj_on_of_nodup_map hepochs.numbered_next.nodup hx hy heq]
      · exact hsource x hx t ht y hy heq
    · rcases List.mem_cons.mp ht with rfl | ht
      · exact (hsource y hy s hs' x hx heq.symm).symm
      · exact h.incarnation s hs' t ht x hx y hy heq
  · intro previous hprevious
    have hcurrent : previous = history.current := (Option.mem_some_iff.mp hprevious).symm
    subst hcurrent
    refine ⟨?_, ?_, ?_⟩
    · intro image himage old hold hsame
      have hphysical := sameImageIdentity_iff.mp hsame
      rcases reconciled_tokens hp hids hepochs himage with
        ⟨other, hother, hsame', hid, hepoch⟩ | ⟨other, hother, hunit, hne, -⟩ | ⟨hnew, -⟩
      · have heq : other = old := hp.eq_of_unit hother hold
          (unit_of_physical (hsame'.symm.trans hphysical))
        exact heq ▸ ⟨hid, hepoch⟩
      · have heq : other = old := hp.eq_of_unit hother hold
          (hunit.symm.trans (unit_of_physical hphysical))
        exact absurd (heq ▸ hphysical) hne
      · exact absurd (unit_of_physical hphysical) (hnew old hold)
    · intro image himage old hold hunit hdifferent
      rcases reconciled_tokens hp hids hepochs himage with
        ⟨other, hother, hsame, -⟩ | ⟨other, hother, hunit', -, hid, hle⟩ | ⟨hnew, -⟩
      · have heq : other = old := hp.eq_of_unit hother hold
          ((unit_of_physical hsame).symm.trans hunit)
        rw [sameImageIdentity_iff.mpr (heq ▸ hsame)] at hdifferent
        cases hdifferent
      · have heq : other = old := hp.eq_of_unit hother hold (hunit'.symm.trans hunit)
        exact ⟨heq ▸ hid, h.unusedEpoch hle⟩
      · exact absurd hunit (hnew old hold)
    · intro image himage hnew
      rcases reconciled_tokens hp hids hepochs himage with
        ⟨other, hother, hsame, -⟩ | ⟨other, hother, hunit, -⟩ | ⟨-, hidle, hepochle⟩
      · exact absurd (unit_of_physical hsame) (hnew other hother)
      · exact absurd hunit (hnew other hother)
      · exact ⟨h.unusedId hidle, h.unusedEpoch hepochle⟩

theorem Owned.neverReused (h : Owned history) : TokensNeverReused history where
  distinct := fun set hset => ⟨(h.numbered set hset).ids.nodup, (h.numbered set hset).epochs.nodup⟩
  allocated := fun set hset image himage =>
    ⟨((h.numbered set hset).ids.range image himage).2,
      ((h.numbered set hset).epochs.range image himage).2⟩
  carried := h.carried
  denotation := fun s hs t ht x hx y hy _ hepoch =>
    sameImageIdentity_iff.mpr (h.incarnation s hs t ht x hx y hy hepoch)

end History

/-- After any refreshes that do not exhaust the cursors, tokens have been carried over and never
reused. -/
theorem image_tokens_never_reused (refreshes : List (List StageImage))
    (hroom : AlongSteps refreshImages CursorsNotExhausted {} refreshes) :
    Along refreshImages TokensNeverReused {} refreshes := by
  have howned : Along refreshImages Owned {} refreshes :=
    along_of_invariant (fun _ _ h hstep => h.refresh hstep) hroom owned_empty
  exact fun pre hpre => (howned pre hpre).neverReused

/-! ## A reload -/

/-- A module whose one executable segment starts at `start`. -/
def mappedModule (name : String) (start : Address) : ModuleImage where
  name := name
  path := name
  buildId := ""
  loadBias := start
  executableRanges := [⟨start, start + 0x1000, 0, 0, 0x1000⟩]

def mappedSnapshot (name : String) (start : Address) (programHash : Option (BitVec 32)) :
    FlutterSnapshotSource where
  moduleName := name
  modulePath := name
  moduleBuildId := ""
  snapshotHash := "hash"
  snapshotFeatures := "product"
  profileName := "arm64"
  isolateInstructionsVa := 0
  isolateInstructionsSize := 0x100
  isolateInstructionsRuntime := start
  compressedPointers := true
  deferredProgramHash := programHash

/-- A root with one deferred unit, then the same root with the unit mapped elsewhere, then
nothing. -/
def reloads : List (List StageImage) :=
  [[.root (mappedModule "app" 0x1000) (mappedSnapshot "app" 0x1000 none) 1,
    .deferred (mappedModule "part" 0x4000) (mappedSnapshot "part" 0x4000 (some 7)) 2 1],
   [.root (mappedModule "app" 0x1000) (mappedSnapshot "app" 0x1000 none) 1,
    .deferred (mappedModule "part" 0x8000) (mappedSnapshot "part" 0x8000 (some 7)) 2 1],
   []]

theorem reloads_never_reuse : Along refreshImages TokensNeverReused {} reloads := by
  refine image_tokens_never_reused reloads ?_
  refine alongSteps_cons.mpr ⟨⟨by decide +kernel, by decide +kernel⟩,
    alongSteps_cons.mpr ⟨⟨by decide +kernel, by decide +kernel⟩,
      alongSteps_cons.mpr ⟨⟨by decide +kernel, by decide +kernel⟩, alongSteps_nil⟩⟩⟩

/-- The second refresh accepts the replacement: it keeps id 2 and takes epoch 3. -/
example : ((reloads.take 2).foldl refreshImages {}).current.images.map
    (fun image => (image.id, image.incarnationEpoch)) = [(1, 1), (2, 3)] := by decide +kernel

end DartPlant
