import DartPlant.Interceptor.RestoreLaws
import DartPlant.Lib.Runs

/-! # Who owns the patched returns

The books of a payload are its list of patches and its consumer count, and the site list and the
consumer flag of every hook.  `Booked` says that they agree; every install and every restore keeps
it, whatever the writes do.

The code agrees with the books too, until an install meets a write that fails after its store.  Such
a candidate is overwritten, but it is not yet among the sites that the rollback visits, and nothing
records it.  `return_ownership_iff` shows that this is the only way.
-/

namespace DartPlant
open Runs SharedLedger List

/-- What the books say after each operation, and what must be left when every hook has been
restored. -/
structure ReturnOwnership (w : PayloadWorld) : Prop where
  recorded : ∀ address, isDartReturn (w.payload.pristine address) = true →
    w.code address ≠ w.payload.pristine address →
      ∃ patch ∈ w.payload.returnPatches, patch.address = address ∧
        patch.originalInstruction = w.payload.pristine address ∧
        patch.patchedInstruction = w.code address
  consumers : ∀ patch ∈ w.payload.returnPatches, patch.consumers =
    w.hooks.countP fun hook => patch.address ∈ hook.payloadReturnSites
  hooks : w.payload.returnInterceptionConsumers =
    w.hooks.countP ReturnHook.payloadReturnConsumer
  restored : (∀ hook ∈ w.hooks, hook.payloadReturnConsumer = false) →
    w.payload.returnPatches = [] ∧
      ∀ address, isDartReturn (w.payload.pristine address) = true →
        w.code address = w.payload.pristine address

/-- An install does not reach a write that fails after its store. -/
def StoredWritesSucceed (w : PayloadWorld) : ReturnOp → Prop
  | .install entry codeSize outcomes =>
    installStoresThenFails ⟨w.code, w.payload, ⟨entry, codeSize, false, []⟩⟩ outcomes = false
  | .restore _ _ => True

/-! ## The books -/

/-- The books agree with each other. -/
structure Booked (payload : DartCodePayload) (hooks : List ReturnHook) : Prop where
  ledger : Balanced Arm64ReturnPatch.address Arm64ReturnPatch.consumers payload.returnPatches
    (hooks.map ReturnHook.payloadReturnSites)
  consumers : payload.returnInterceptionConsumers = hooks.countP ReturnHook.payloadReturnConsumer
  idle : ∀ hook ∈ hooks, hook.payloadReturnConsumer = false ↔ hook.payloadReturnSites = []
  interceptions : ∀ patch ∈ payload.returnPatches, Interception payload.pristine patch

section Books
variable {payload : DartCodePayload} {hooks : List ReturnHook}

theorem Booked.fresh {w : PayloadWorld} (h : FreshPayload w) : Booked w.payload w.hooks where
  ledger := by
    rw [h.patches, h.hooks]
    exact balanced_empty
  consumers := by
    rw [h.consumers, h.hooks]
    rfl
  idle := by
    rw [h.hooks]
    exact fun _ h => absurd h not_mem_nil
  interceptions := by
    rw [h.patches]
    exact fun _ h => absurd h not_mem_nil

theorem Booked.patches_eq_nil (h : Booked payload hooks)
    (hidle : ∀ hook ∈ hooks, hook.payloadReturnConsumer = false) : payload.returnPatches = [] := by
  refine h.ledger.entries_eq_nil fun held hheld => ?_
  obtain ⟨hook, hhook, rfl⟩ := mem_map.mp hheld
  exact (h.idle hook hhook).mp (hidle hook hhook)

/-- An install keeps the books. -/
theorem Booked.install {s s' : ReturnState} {shared : List Address}
    {fresh : List Arm64ReturnPatch} (h : Booked s.payload hooks)
    (hrecorded : Recorded s s' shared fresh) : Booked s'.payload (hooks ++ [s'.hook]) where
  ledger := by
    rw [hrecorded.patches, map_append, map_singleton]
    refine h.ledger.acquire gainConsumer_address (fun _ => rfl) hrecorded.shared
      hrecorded.freshNodup (fun patch hpatch => (hrecorded.fresh patch hpatch).2.1) ?_
      hrecorded.nodup hrecorded.sites
    exact fun patch hpatch other hother => (hrecorded.fresh patch hpatch).2.2.1 other hother
  consumers := by
    rw [hrecorded.consumers, h.consumers, countP_append, countP_singleton]
  idle := by
    intro hook hhook
    rcases mem_append.mp hhook with hhook | hhook
    · exact h.idle hook hhook
    · rw [mem_singleton.mp hhook]
      exact hrecorded.idle
  interceptions := by
    intro patch hpatch
    rw [hrecorded.pristine]
    rw [hrecorded.patches] at hpatch
    rcases mem_append.mp hpatch with hpatch | hpatch
    · obtain ⟨old, hold, rfl⟩ := mem_map.mp hpatch
      have hi := h.interceptions old hold
      split
      · exact ⟨hi.original, hi.site, hi.patched⟩
      · exact hi
    · exact (hrecorded.fresh patch hpatch).1

/-- What a released holder leaves of the ledger. -/
theorem Booked.released_ledger {hook hook' : ReturnHook} {index : Nat} (h : Booked payload hooks)
    (hget : hooks[index]? = some hook) (hsites : hook'.payloadReturnSites = []) :
    Balanced Arm64ReturnPatch.address Arm64ReturnPatch.consumers
      ((payload.returnPatches.map fun patch =>
        if patch.address ∈ hook.payloadReturnSites then loseConsumer patch else patch).filter
          fun patch => patch.consumers ≠ 0)
      ((hooks.set index hook').map ReturnHook.payloadReturnSites) := by
  rw [map_set, hsites]
  refine h.ledger.release ?_ loseConsumer_address fun _ => rfl
  rw [List.getElem?_map, hget]
  rfl

theorem Booked.released_consumers {hook hook' : ReturnHook} {index : Nat} (h : Booked payload hooks)
    (hget : hooks[index]? = some hook) (hconsumer : hook.payloadReturnConsumer = true)
    (hidle : hook'.payloadReturnConsumer = false) :
    payload.returnInterceptionConsumers - 1 =
      (hooks.set index hook').countP ReturnHook.payloadReturnConsumer := by
  obtain ⟨hlt, heq⟩ := List.getElem?_eq_some_iff.mp hget
  rw [countP_set hlt, heq, hconsumer, hidle, h.consumers]
  simp only [if_true, Bool.false_eq_true, if_false, Nat.add_zero]

theorem Booked.released_idle {hook' : ReturnHook} {index : Nat} (h : Booked payload hooks)
    (hconsumer : hook'.payloadReturnConsumer = false) (hsites : hook'.payloadReturnSites = []) :
    ∀ hook ∈ hooks.set index hook',
      hook.payloadReturnConsumer = false ↔ hook.payloadReturnSites = [] := by
  intro hook hhook
  rcases mem_or_eq_of_mem_set hhook with hhook | rfl
  · exact h.idle hook hhook
  · simp only [hconsumer, hsites]

/-- When the last consumer is released, no patch is left. -/
theorem Booked.last_released {hook : ReturnHook} {index : Nat} (h : Booked payload hooks)
    (hget : hooks[index]? = some hook) (hconsumer : hook.payloadReturnConsumer = true)
    (hlast : payload.returnInterceptionConsumers - 1 = 0) :
    ((payload.returnPatches.map fun patch =>
      if patch.address ∈ hook.payloadReturnSites then loseConsumer patch else patch).filter
        fun patch => patch.consumers ≠ 0) = [] := by
  let hook' : ReturnHook :=
    { hook with payloadReturnConsumer := false, payloadReturnSites := [] }
  refine (h.released_ledger hget (rfl : hook'.payloadReturnSites = [])).entries_eq_nil ?_
  intro held hheld
  obtain ⟨other, hother, rfl⟩ := mem_map.mp hheld
  refine (h.released_idle (rfl : hook'.payloadReturnConsumer = false) rfl other hother).mp ?_
  rw [h.released_consumers hget hconsumer (rfl : hook'.payloadReturnConsumer = false),
    countP_eq_zero] at hlast
  exact Bool.eq_false_iff.mpr (hlast other hother)

end Books

/-! ## The code -/

/-- The books agree with each other, a recorded site holds its branch or its RET, and every other
RET site is pristine. -/
structure OwnedReturns (code : Code) (payload : DartCodePayload) (hooks : List ReturnHook) :
    Prop where
  booked : Booked payload hooks
  owned : ∀ patch ∈ payload.returnPatches, code patch.address = patch.patchedInstruction ∨
    code patch.address = patch.originalInstruction
  pristine : ∀ address, isDartReturn (payload.pristine address) = true →
    Unrecorded payload.returnPatches address → code address = payload.pristine address

section Code
variable {w : PayloadWorld}

theorem OwnedReturns.fresh (h : FreshPayload w) : OwnedReturns w.code w.payload w.hooks where
  booked := Booked.fresh h
  owned := by
    rw [h.patches]
    exact fun _ h => absurd h not_mem_nil
  pristine := fun address hsite _ => h.code address hsite

theorem OwnedReturns.ownership (h : OwnedReturns w.code w.payload w.hooks) : ReturnOwnership w where
  recorded := by
    intro address hsite hdiffers
    have hrecorded : ¬ Unrecorded w.payload.returnPatches address := fun hun =>
      hdiffers (h.pristine address hsite hun)
    simp only [Unrecorded, not_forall, not_not] at hrecorded
    obtain ⟨patch, hpatch, rfl⟩ := hrecorded
    have horiginal := (h.booked.interceptions patch hpatch).original
    refine ⟨patch, hpatch, rfl, horiginal, ?_⟩
    rcases h.owned patch hpatch with heq | heq
    · exact heq.symm
    · exact absurd (heq.trans horiginal) hdiffers
  consumers := by
    intro patch hpatch
    rw [h.booked.ledger.counts patch hpatch, countP_map]
    rfl
  hooks := h.booked.consumers
  restored := by
    intro hidle
    have hnil := h.booked.patches_eq_nil hidle
    refine ⟨hnil, fun address hsite => h.pristine address hsite ?_⟩
    rw [hnil]
    exact fun _ h => absurd h not_mem_nil

/-- An install that changes only code it records. -/
theorem OwnedReturns.recorded {s s' : ReturnState} {hooks : List ReturnHook}
    {shared : List Address} {fresh : List Arm64ReturnPatch}
    (h : OwnedReturns s.code s.payload hooks) (hrecorded : Recorded s s' shared fresh)
    (hold : ∀ patch ∈ s.payload.returnPatches, s'.code patch.address = s.code patch.address)
    (hcode : ∀ address, address ∉ fresh.map Arm64ReturnPatch.address →
      s'.code address = s.code address) :
    OwnedReturns s'.code s'.payload (hooks ++ [s'.hook]) where
  booked := h.booked.install hrecorded
  owned := by
    intro patch hpatch
    rw [hrecorded.patches] at hpatch
    rcases mem_append.mp hpatch with hpatch | hpatch
    · obtain ⟨old, hin, rfl⟩ := mem_map.mp hpatch
      have howned := h.owned old hin
      rw [← hold old hin] at howned
      split
      · exact howned
      · exact howned
    · exact Or.inl (hrecorded.fresh patch hpatch).2.2.2
  pristine := by
    intro address hsite hun
    rw [hrecorded.pristine] at hsite ⊢
    rw [hrecorded.patches] at hun
    have hfresh : address ∉ fresh.map Arm64ReturnPatch.address := by
      intro hin
      obtain ⟨patch, hpatch, heq⟩ := mem_map.mp hin
      exact hun patch (mem_append_right _ hpatch) heq
    rw [hcode address hfresh]
    refine h.pristine address hsite fun patch hpatch heq => ?_
    refine hun _ (mem_append_left _ (mem_map.mpr ⟨patch, hpatch, rfl⟩)) ?_
    split
    · exact heq
    · exact heq

/-- A restore that keeps the books changes only recorded code. -/
theorem OwnedReturns.kept {s s' : ReturnState} {hooks : List ReturnHook} {index : Nat}
    (h : OwnedReturns s.code s.payload hooks) (hget : hooks[index]? = some s.hook)
    (hkept : BooksKept s s') : OwnedReturns s'.code s'.payload (hooks.set index s'.hook) := by
  obtain ⟨hlt, heq⟩ := List.getElem?_eq_some_iff.mp hget
  rw [hkept.payload, hkept.hook, ← heq, set_getElem_self]
  refine ⟨h.booked, ?_, ?_⟩
  · intro patch hpatch
    rcases hkept.code patch.address with hsame | ⟨other, hother, haddress, howned⟩
    · rw [hsame]
      exact h.owned patch hpatch
    · rw [h.booked.ledger.eq_of_key hother hpatch haddress] at howned
      exact howned
  · intro address hsite hun
    rcases hkept.code address with hsame | ⟨other, hother, haddress, -⟩
    · exact hsame.trans (h.pristine address hsite hun)
    · exact absurd haddress (hun other hother)

/-- A restore that succeeds gives back the code of the patches it drops. -/
theorem OwnedReturns.released {s s' : ReturnState} {hooks : List ReturnHook} {index : Nat}
    (h : OwnedReturns s.code s.payload hooks) (hget : hooks[index]? = some s.hook)
    (hconsumer : s.hook.payloadReturnConsumer = true) (hreleased : Released s s')
    (hrestored : ∀ patch ∈ s.payload.returnPatches,
      patch.address ∈ s.hook.payloadReturnSites → patch.consumers = 1 →
        s'.code patch.address = patch.originalInstruction)
    (hcode : ∀ address, (∀ patch ∈ s.payload.returnPatches, patch.address = address →
      ¬ (patch.address ∈ s.hook.payloadReturnSites ∧ patch.consumers = 1)) →
        s'.code address = s.code address) :
    OwnedReturns s'.code s'.payload (hooks.set index s'.hook) := by
  have hkept : ∀ patch ∈ s'.payload.returnPatches, ∃ old ∈ s.payload.returnPatches,
      old.address = patch.address ∧ old.patchedInstruction = patch.patchedInstruction ∧
        old.originalInstruction = patch.originalInstruction ∧
        ¬ (old.address ∈ s.hook.payloadReturnSites ∧ old.consumers = 1) := by
    intro patch hpatch
    rw [hreleased.patches, mem_filter] at hpatch
    obtain ⟨hmap, hcount⟩ := hpatch
    obtain ⟨old, hold, rfl⟩ := mem_map.mp hmap
    refine ⟨old, hold, ?_⟩
    by_cases hlisted : old.address ∈ s.hook.payloadReturnSites
    · rw [if_pos hlisted] at hcount ⊢
      refine ⟨rfl, rfl, rfl, fun hone => ?_⟩
      simp only [loseConsumer, hone.2, Nat.sub_self, ne_eq, not_true_eq_false, decide_false,
        Bool.false_eq_true] at hcount
    · rw [if_neg hlisted]
      exact ⟨rfl, rfl, rfl, fun hone => hlisted hone.1⟩
  have hsame : ∀ old ∈ s.payload.returnPatches,
      ¬ (old.address ∈ s.hook.payloadReturnSites ∧ old.consumers = 1) →
        s'.code old.address = s.code old.address := by
    intro old hold hnot
    refine hcode old.address fun patch hpatch heq => ?_
    rw [h.booked.ledger.eq_of_key hpatch hold heq]
    exact hnot
  refine ⟨⟨?_, ?_, h.booked.released_idle hreleased.consumer hreleased.sites, ?_⟩, ?_, ?_⟩
  · rw [hreleased.patches]
    exact h.booked.released_ledger hget hreleased.sites
  · exact hreleased.consumers.trans
      (h.booked.released_consumers hget hconsumer hreleased.consumer)
  · intro patch hpatch
    obtain ⟨old, hold, haddress, hpatched, horiginal, -⟩ := hkept patch hpatch
    have hi := h.booked.interceptions old hold
    rw [hreleased.pristine]
    exact ⟨horiginal ▸ haddress ▸ hi.original, haddress ▸ hi.site, hpatched ▸ hi.patched⟩
  · intro patch hpatch
    obtain ⟨old, hold, haddress, hpatched, horiginal, hnot⟩ := hkept patch hpatch
    rw [← haddress, ← hpatched, ← horiginal, hsame old hold hnot]
    exact h.owned old hold
  · intro address hsite hun
    have hsite' : isDartReturn (s.payload.pristine address) = true := by
      rw [← hreleased.pristine]
      exact hsite
    rw [hreleased.pristine]
    by_cases hdropped : ∃ old ∈ s.payload.returnPatches, old.address = address ∧
        old.address ∈ s.hook.payloadReturnSites ∧ old.consumers = 1
    · obtain ⟨old, hold, rfl, hlisted, hone⟩ := hdropped
      rw [hrestored old hold hlisted hone]
      exact (h.booked.interceptions old hold).original
    · have hnot : ∀ patch ∈ s.payload.returnPatches, patch.address = address →
          ¬ (patch.address ∈ s.hook.payloadReturnSites ∧ patch.consumers = 1) :=
        fun patch hpatch heq hone => hdropped ⟨patch, hpatch, heq, hone⟩
      rw [hcode address hnot]
      refine h.pristine address hsite' fun patch hpatch heq => ?_
      -- A patch of this address that is not dropped would still be recorded.
      refine hun (if patch.address ∈ s.hook.payloadReturnSites then loseConsumer patch else patch)
        ?_ (by split <;> exact heq)
      rw [hreleased.patches]
      refine mem_filter.mpr ⟨mem_map.mpr ⟨patch, hpatch, rfl⟩, ?_⟩
      have hpositive := h.booked.ledger.positive patch hpatch
      have hmany := hnot patch hpatch heq
      rw [decide_eq_true_eq]
      split
      · next hlisted =>
        have hne : patch.consumers ≠ 1 := fun hone => hmany ⟨hlisted, hone⟩
        show patch.consumers - 1 ≠ 0
        omega
      · omega

/-- One operation keeps code and books together, when its stored writes succeed. -/
theorem OwnedReturns.step (h : OwnedReturns w.code w.payload w.hooks) {op : ReturnOp}
    (hop : StoredWritesSucceed w op) :
    OwnedReturns (applyReturnOp w op).code (applyReturnOp w op).payload
      (applyReturnOp w op).hooks := by
  cases op with
  | install entry codeSize outcomes =>
    let s : ReturnState := ⟨w.code, w.payload, ⟨entry, codeSize, false, []⟩⟩
    obtain ⟨shared, fresh, hrecorded, hold, hcode⟩ :=
      install_spec (s := s) outcomes rfl rfl h.booked.ledger.keys
    rw [if_neg (Bool.eq_false_iff.mp hop)] at hcode
    exact OwnedReturns.recorded (s := s) h hrecorded hold hcode
  | restore index outcomes =>
    simp only [applyReturnOp]
    cases hget : w.hooks[index]? with
    | none => exact h
    | some hook =>
      let s : ReturnState := ⟨w.code, w.payload, hook⟩
      have hmem : hook ∈ w.hooks := mem_of_getElem? hget
      have hnodup : s.hook.payloadReturnSites.Nodup :=
        h.booked.ledger.nodup _ (mem_map_of_mem hmem)
      cases hconsumer : hook.payloadReturnConsumer with
      | false =>
        have hsame : (restoreArm64ReturnInterception s outcomes).1 = s := by
          rw [restore_idle (s := s) outcomes hconsumer]
        exact OwnedReturns.kept (s := s) h hget
          (hsame ▸ ⟨rfl, rfl, fun _ => Or.inl rfl⟩)
      | true =>
        rcases restore_spec (s := s) outcomes h.booked.ledger.keys hnodup
            (h.booked.last_released hget hconsumer) with ⟨hkept, -⟩ | ⟨hreleased, -, hrest, hcode⟩
        · exact OwnedReturns.kept (s := s) h hget hkept
        · exact OwnedReturns.released (s := s) h hget hconsumer hreleased hrest hcode

/-- A stored write that fails leaves a RET site overwritten and unrecorded. -/
theorem OwnedReturns.orphaned (h : OwnedReturns w.code w.payload w.hooks) {op : ReturnOp}
    (hop : ¬ StoredWritesSucceed w op) : ¬ ReturnOwnership (applyReturnOp w op) := by
  cases op with
  | restore index outcomes => exact absurd trivial hop
  | install entry codeSize outcomes =>
    let s : ReturnState := ⟨w.code, w.payload, ⟨entry, codeSize, false, []⟩⟩
    obtain ⟨shared, fresh, hrecorded, -, hcode⟩ :=
      install_spec (s := s) outcomes rfl rfl h.booked.ledger.keys
    rw [if_pos ((Bool.not_eq_false _).mp hop)] at hcode
    obtain ⟨address, hun, hsite, hbranch⟩ := hcode
    intro hownership
    have hpristine : (installArm64ReturnInterception s outcomes).1.payload.pristine address =
        w.payload.pristine address := congrFun hrecorded.pristine address
    have hdiffers : (installArm64ReturnInterception s outcomes).1.code address ≠
        (installArm64ReturnInterception s outcomes).1.payload.pristine address := by
      intro heq
      rw [heq, hpristine, hsite] at hbranch
      cases hbranch
    obtain ⟨patch, hpatch, heq, -⟩ := hownership.recorded address
      ((congrArg isDartReturn hpristine).trans hsite) hdiffers
    exact hun patch hpatch heq

end Code

/-- Along every sequence of installs and restores on a fresh payload, code and books agree exactly
when no install reaches a write that fails after its store. -/
theorem return_ownership_iff {w : PayloadWorld} (h : FreshPayload w) (ops : List ReturnOp) :
    Along applyReturnOp ReturnOwnership w ops ↔
      AlongSteps applyReturnOp StoredWritesSucceed w ops :=
  along_iff (I := fun v : PayloadWorld => OwnedReturns v.code v.payload v.hooks)
    (R := fun _ _ => True) (fun _ hw => hw.ownership)
    (fun _ _ hw _ hop => hw.step hop) (fun _ _ hw _ hop => hw.orphaned hop)
    (fun _ _ _ => trivial) (OwnedReturns.fresh h)

/-! ## A write that fails after its store -/

/-- The shared body of two entries, with nothing installed. -/
def sharedPayload : PayloadWorld where
  code := sharedBody
  payload := {
    start := 0x1000
    instructionsLength := 32
    pristine := sharedBody
    pristineSize := 32
    returnEntry := none
    returnEntryPublished := false
    returnPatches := []
    returnInterceptionConsumers := 0 }
  hooks := []

theorem sharedPayload_fresh : FreshPayload sharedPayload :=
  ⟨fun _ _ => rfl, rfl, rfl, rfl⟩

/-- An install that gets everything it asks for, with these writes. -/
def installWrites (write rollback : Address → WriteOutcome) : InstallOutcomes where
  returnEntry := some 0x2000
  walkMemory := true
  maxPatches := 1024
  reserved := true
  retained := true
  write := write
  rollback := rollback

/-- The first entry's second write stores its branch and then fails to make the page executable. -/
def storedFailure : List ReturnOp :=
  [.install 0x1000 32 (installWrites
    (fun address => if address = 0x1018 then .failAfter else .ok) fun _ => .ok)]

/-- The branch at 0x1018 stays, and nothing records it. -/
theorem storedFailure_orphans :
    ¬ Along applyReturnOp ReturnOwnership sharedPayload storedFailure := by
  intro h
  have hlast : ReturnOwnership (storedFailure.foldl applyReturnOp sharedPayload) :=
    h storedFailure (prefix_refl _)
  have hnone : (storedFailure.foldl applyReturnOp sharedPayload).payload.returnPatches = [] := by
    decide +kernel
  have hdiffers : (storedFailure.foldl applyReturnOp sharedPayload).code 0x1018 ≠
      (storedFailure.foldl applyReturnOp sharedPayload).payload.pristine 0x1018 := by
    decide +kernel
  obtain ⟨patch, hpatch, -⟩ := hlast.recorded 0x1018 (by decide +kernel) hdiffers
  rw [hnone] at hpatch
  exact absurd hpatch not_mem_nil

/-- Two entries share a return; the second one's first attempt fails before its store, and both are
restored in the end. -/
def sharedInstalls : List ReturnOp :=
  [.install 0x1000 32 (installWrites (fun _ => .ok) fun _ => .ok),
    .install 0x1010 16 (installWrites (fun _ => .failBefore) fun _ => .ok),
    .install 0x1010 16 (installWrites (fun _ => .ok) fun _ => .ok),
    .restore 0 ⟨fun _ => .ok, fun _ => .ok⟩, .restore 2 ⟨fun _ => .ok, fun _ => .ok⟩]

theorem sharedInstalls_owned :
    Along applyReturnOp ReturnOwnership sharedPayload sharedInstalls := by
  refine (return_ownership_iff sharedPayload_fresh sharedInstalls).mpr ?_
  simp only [sharedInstalls, alongSteps_cons, alongSteps_nil, StoredWritesSucceed,
    and_true]
  decide +kernel

end DartPlant
