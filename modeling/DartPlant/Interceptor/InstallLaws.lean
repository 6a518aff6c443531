import DartPlant.Interceptor.ReturnInterception

/-! # What an install does

One specification for each loop of an install, and then `install_spec` for the transaction, which
says everything later modules need, for every outcome of the writes.

A write that fails after its store is the one thing an install does not account for.
`storesThenFails` is the condition under which its loop meets one, decided on the code before the
install: candidates have different addresses, so no earlier write of the loop is seen by a later
check.
-/

namespace DartPlant
open SharedLedger Function List

/-! ## Single writes -/

section Write
variable {code : Code} {address other : Address} {instruction : Instruction}

theorem write_other (outcome : WriteOutcome) (h : other ≠ address) :
    (writeExecutableInstruction code address instruction outcome).1 other = code other := by
  cases outcome with
  | ok | failAfter => exact update_of_ne h _ _
  | failBefore => rfl

end Write

/-- An encoded branch is no RET. -/
theorem encodeDirectBranch_not_return {source target : Address} {branch : Instruction}
    (h : encodeDirectBranch source target = some branch) : isDartReturn branch = false := by
  unfold encodeDirectBranch at h
  split at h
  · cases h
  · dsimp only at h
    split at h
    · cases h
    · cases h
      rw [isDartReturn, beq_eq_false_iff_ne]
      intro heq
      have hbit := congrArg (fun word : BitVec 32 => word.getLsbD 31) heq
      simp at hbit

/-! ## The loop of an install -/

/-- The address has no patch. -/
def Unrecorded (patches : List Arm64ReturnPatch) (address : Address) : Prop :=
  ∀ patch ∈ patches, patch.address ≠ address

theorem find?_address_none {patches : List Arm64ReturnPatch} {address : Address} :
    (patches.find? fun patch => patch.address == address) = none ↔ Unrecorded patches address := by
  simp only [List.find?_eq_none, beq_iff_eq, Unrecorded, ne_eq]

theorem find?_address_some {patches : List Arm64ReturnPatch} {address : Address}
    {patch : Arm64ReturnPatch}
    (h : (patches.find? fun patch => patch.address == address) = some patch) :
    patch ∈ patches ∧ patch.address = address := by
  refine ⟨mem_of_find?_eq_some h, ?_⟩
  have hmatch := List.find?_some h
  simpa only [beq_iff_eq] using hmatch

/-- A patch that may be recorded: it turns a RET of the pristine code into something else. -/
structure Interception (pristine : Code) (patch : Arm64ReturnPatch) : Prop where
  original : patch.originalInstruction = pristine patch.address
  site : isDartReturn (pristine patch.address) = true
  patched : isDartReturn patch.patchedInstruction = false

theorem Interception.ne {pristine : Code} {patch : Arm64ReturnPatch}
    (h : Interception pristine patch) : patch.patchedInstruction ≠ patch.originalInstruction := by
  intro heq
  have hsite := h.site
  rw [← h.original, ← heq, h.patched] at hsite
  cases hsite

/-- What a list of candidates is: RETs of the pristine code, each address once. -/
structure Candidates (pristine : Code) (candidates : List Arm64ReturnPatch) : Prop where
  nodup : (candidates.map Arm64ReturnPatch.address).Nodup
  original : ∀ candidate ∈ candidates, candidate.originalInstruction = pristine candidate.address
  site : ∀ candidate ∈ candidates, isDartReturn (pristine candidate.address) = true

theorem checkSite_owned {patches : List Arm64ReturnPatch} {returnEntry : Address} {retained : Bool}
    {candidate : Arm64ReturnPatch} {current : Instruction}
    (h : checkSite patches returnEntry retained candidate current = .owned) :
    ∃ patch ∈ patches, patch.address = candidate.address := by
  unfold checkSite at h
  cases hfind : patches.find? fun patch => patch.address == candidate.address with
  | some existing => exact ⟨existing, find?_address_some hfind⟩
  | none =>
    rw [hfind] at h
    dsimp only at h
    split at h
    · cases h
    · split at h
      · cases h
      · split at h
        · cases h
        · cases h

theorem checkSite_writable {patches : List Arm64ReturnPatch} {returnEntry : Address}
    {retained : Bool} {candidate : Arm64ReturnPatch} {current branch : Instruction}
    (h : checkSite patches returnEntry retained candidate current = .writable branch) :
    Unrecorded patches candidate.address ∧ current = candidate.originalInstruction ∧
      isDartReturn branch = false := by
  unfold checkSite at h
  cases hfind : patches.find? fun patch => patch.address == candidate.address with
  | some existing =>
    rw [hfind] at h
    dsimp only at h
    split at h
    · cases h
    · cases h
  | none =>
    rw [hfind] at h
    dsimp only at h
    split at h
    · cases h
    · next hcurrent =>
      split at h
      · cases h
      · next hencode =>
        split at h
        · cases h
        · cases h
          exact ⟨find?_address_none.mp hfind, not_not.mp hcurrent,
            encodeDirectBranch_not_return hencode⟩

/-- The loop of an install, started on `code`, reaches a write that fails after its store. -/
def storesThenFails (patches : List Arm64ReturnPatch) (returnEntry : Address) (retained : Bool)
    (write : Address → WriteOutcome) (code : Code) : List Arm64ReturnPatch → Bool
  | [] => false
  | candidate :: rest =>
    match checkSite patches returnEntry retained candidate (code candidate.address) with
    | .refused _ => false
    | .owned => storesThenFails patches returnEntry retained write code rest
    | .writable _ =>
      match write candidate.address with
      | .ok => storesThenFails patches returnEntry retained write code rest
      | .failBefore => false
      | .failAfter => true

/-- The invariant of the loop: what has been shared, what has been written, and that nothing else
has changed since the start. -/
structure Acquired (pristine start : Code) (patches : List Arm64ReturnPatch)
    (acquisition : Acquisition) : Prop where
  nodup : acquisition.acquiredSites.Nodup
  sites : ∀ address, address ∈ acquisition.acquiredSites ↔
    address ∈ acquisition.existingConsumed ∨
      address ∈ acquisition.newlyInstalled.map Arm64ReturnPatch.address
  sharedNodup : acquisition.existingConsumed.Nodup
  shared : ∀ address ∈ acquisition.existingConsumed, ∃ patch ∈ patches, patch.address = address
  newNodup : (acquisition.newlyInstalled.map Arm64ReturnPatch.address).Nodup
  new : ∀ patch ∈ acquisition.newlyInstalled, Interception pristine patch ∧ patch.consumers = 1 ∧
    Unrecorded patches patch.address ∧ start patch.address = patch.originalInstruction ∧
    acquisition.code patch.address = patch.patchedInstruction
  frame : ∀ address, address ∉ acquisition.newlyInstalled.map Arm64ReturnPatch.address →
    acquisition.code address = start address

section Acquire
variable {pristine start : Code} {patches : List Arm64ReturnPatch} {acquisition : Acquisition}
  {candidate : Arm64ReturnPatch}

theorem Acquired.fresh (h : Acquired pristine start patches acquisition)
    (hout : candidate.address ∉ acquisition.acquiredSites) :
    candidate.address ∉ acquisition.existingConsumed ∧
      candidate.address ∉ acquisition.newlyInstalled.map Arm64ReturnPatch.address :=
  not_or.mp ((not_congr (h.sites _)).mp hout)

theorem nodup_concat {α : Type} {xs : List α} {x : α} (h : xs.Nodup) (hout : x ∉ xs) :
    (xs ++ [x]).Nodup :=
  nodup_append.mpr ⟨h, nodup_singleton x, fun _ ha _ hb heq =>
    hout (mem_singleton.mp hb ▸ heq ▸ ha)⟩

/-- A candidate that a sibling owns. -/
theorem Acquired.share (h : Acquired pristine start patches acquisition)
    (hout : candidate.address ∉ acquisition.acquiredSites)
    (howned : ∃ patch ∈ patches, patch.address = candidate.address) :
    Acquired pristine start patches { acquisition with
      existingConsumed := acquisition.existingConsumed ++ [candidate.address]
      acquiredSites := acquisition.acquiredSites ++ [candidate.address] } where
  nodup := nodup_concat h.nodup hout
  sites := by
    intro address
    simp only [mem_append, mem_singleton, h.sites]
    exact or_right_comm
  sharedNodup := nodup_concat h.sharedNodup (h.fresh hout).1
  shared := by
    intro address hin
    rcases mem_append.mp hin with hin | hin
    · exact h.shared address hin
    · rw [mem_singleton.mp hin]
      exact howned
  newNodup := h.newNodup
  new := h.new
  frame := h.frame

/-- A candidate that has been overwritten. -/
theorem Acquired.install (h : Acquired pristine start patches acquisition) {branch : Instruction}
    (published : Bool) (hout : candidate.address ∉ acquisition.acquiredSites)
    (horiginal : candidate.originalInstruction = pristine candidate.address)
    (hsite : isDartReturn (pristine candidate.address) = true)
    (hwritable : Unrecorded patches candidate.address ∧
      acquisition.code candidate.address = candidate.originalInstruction ∧
      isDartReturn branch = false) :
    Acquired pristine start patches { acquisition with
      code := update acquisition.code candidate.address branch
      published := published
      newlyInstalled := acquisition.newlyInstalled ++
        [{ candidate with patchedInstruction := branch, consumers := 1 }]
      acquiredSites := acquisition.acquiredSites ++ [candidate.address] } where
  nodup := nodup_concat h.nodup hout
  sites := by
    intro address
    simp only [mem_append, mem_singleton, h.sites, map_append, map_cons,
      map_nil]
    exact or_assoc
  sharedNodup := h.sharedNodup
  shared := h.shared
  newNodup := by
    rw [map_append]
    exact nodup_concat h.newNodup (h.fresh hout).2
  new := by
    intro patch hpatch
    rcases mem_append.mp hpatch with hpatch | hpatch
    · obtain ⟨hi, hone, hun, hstart, hcode⟩ := h.new patch hpatch
      refine ⟨hi, hone, hun, hstart, ?_⟩
      have hne : patch.address ≠ candidate.address := fun heq =>
        (h.fresh hout).2 (mem_map.mpr ⟨patch, hpatch, heq⟩)
      exact (update_of_ne hne _ _).trans hcode
    · rw [mem_singleton.mp hpatch]
      refine ⟨⟨horiginal, hsite, hwritable.2.2⟩, rfl, hwritable.1, ?_, ?_⟩
      · rw [← hwritable.2.1]
        exact (h.frame _ (h.fresh hout).2).symm
      · exact update_self _ _ _
  frame := by
    intro address haddress
    rw [map_append, mem_append, not_or] at haddress
    have hne : address ≠ candidate.address := fun heq =>
      haddress.2 (mem_singleton.mpr heq)
    exact (update_of_ne hne _ _).trans (h.frame address haddress.1)

end Acquire

/-- What the loop leaves when a write fails after its store: everything as the invariant says, but
one unrecorded RET site overwritten. -/
def Orphaned (pristine start : Code) (patches : List Arm64ReturnPatch)
    (acquisition : Acquisition) : Prop :=
  ∃ code address branch, Acquired pristine start patches { acquisition with code := code } ∧
    acquisition.code = update code address branch ∧ Unrecorded patches address ∧
    address ∉ acquisition.newlyInstalled.map Arm64ReturnPatch.address ∧
    isDartReturn (pristine address) = true ∧ isDartReturn branch = false

/-- The loop keeps its invariant, unless it reaches a write that fails after its store. -/
theorem acquireSites_spec {pristine start : Code} {patches : List Arm64ReturnPatch}
    (returnEntry : Address) (retained : Bool) (write : Address → WriteOutcome)
    {candidates : List Arm64ReturnPatch} (hc : Candidates pristine candidates)
    {acquisition : Acquisition} (h : Acquired pristine start patches acquisition)
    (hdisjoint : ∀ candidate ∈ candidates, candidate.address ∉ acquisition.acquiredSites) :
    if storesThenFails patches returnEntry retained write start candidates = true then
      (acquireSites patches returnEntry retained write acquisition candidates).2.isSome = true ∧
        Orphaned pristine start patches
          (acquireSites patches returnEntry retained write acquisition candidates).1
    else
      Acquired pristine start patches
          (acquireSites patches returnEntry retained write acquisition candidates).1 ∧
        ((acquireSites patches returnEntry retained write acquisition candidates).2 = none →
          (acquireSites patches returnEntry retained write acquisition candidates).1.acquiredSites =
            acquisition.acquiredSites ++ candidates.map Arm64ReturnPatch.address) := by
  induction candidates generalizing acquisition with
  | nil =>
    rw [if_neg (by simp only [storesThenFails, Bool.false_eq_true, not_false_eq_true])]
    exact ⟨h, fun _ => (append_nil _).symm⟩
  | cons candidate rest ih =>
    obtain ⟨hfresh, hnodup⟩ := nodup_cons.mp hc.nodup
    have hrest : Candidates pristine rest := ⟨hnodup,
      fun other hother => hc.original other (mem_cons_of_mem _ hother),
      fun other hother => hc.site other (mem_cons_of_mem _ hother)⟩
    have hout := hdisjoint candidate mem_cons_self
    have hcurrent : acquisition.code candidate.address = start candidate.address :=
      h.frame _ (h.fresh hout).2
    have hdisjoint' : ∀ other ∈ rest,
        other.address ∉ acquisition.acquiredSites ++ [candidate.address] := by
      intro other hother hin
      rcases mem_append.mp hin with hin | hin
      · exact hdisjoint other (mem_cons_of_mem _ hother) hin
      · exact hfresh (mem_map.mpr ⟨other, hother, mem_singleton.mp hin⟩)
    simp only [storesThenFails, acquireSites, hcurrent]
    cases hcheck : checkSite patches returnEntry retained candidate (start candidate.address) with
    | refused message =>
      simp only [Bool.false_eq_true, if_false, reduceCtorEq, false_implies, and_true]
      exact h
    | owned =>
      have hnext := ih hrest (h.share hout (checkSite_owned hcheck)) hdisjoint'
      simpa only [map_cons, append_assoc, singleton_append] using hnext
    | writable branch =>
      have hwritable := checkSite_writable hcheck
      rw [← hcurrent] at hwritable
      cases houtcome : write candidate.address with
      | ok =>
        have hnext := ih hrest (h.install true hout (hc.original _ mem_cons_self)
          (hc.site _ mem_cons_self) hwritable) hdisjoint'
        simpa only [writeExecutableInstruction, map_cons, append_assoc,
          singleton_append] using hnext
      | failBefore =>
        simp only [writeExecutableInstruction, Bool.false_eq_true, if_false, reduceCtorEq,
          false_implies, and_true]
        exact ⟨h.nodup, h.sites, h.sharedNodup, h.shared, h.newNodup, h.new, h.frame⟩
      | failAfter =>
        simp only [writeExecutableInstruction, if_true, Option.isSome_some, true_and]
        exact ⟨acquisition.code, candidate.address, branch,
          ⟨h.nodup, h.sites, h.sharedNodup, h.shared, h.newNodup, h.new, h.frame⟩, rfl, hwritable.1,
          (h.fresh hout).2, hc.site _ mem_cons_self, hwritable.2.2⟩

/-! ## The rollback of an install -/

/-- What a rollback leaves: the residual sites still hold their branch and the others their RET. -/
structure RolledBack (code code' : Code) (sites residual : List Arm64ReturnPatch) : Prop where
  sublist : residual.Sublist sites
  kept : ∀ site ∈ residual, code' site.address = site.patchedInstruction
  restored : ∀ site ∈ sites, site ∉ residual → code' site.address = site.originalInstruction
  frame : ∀ address, address ∉ sites.map Arm64ReturnPatch.address → code' address = code address

theorem rollbackSites_spec (rollback : Address → WriteOutcome) {sites : List Arm64ReturnPatch}
    {code : Code} (hnodup : (sites.map Arm64ReturnPatch.address).Nodup)
    (hne : ∀ site ∈ sites, site.patchedInstruction ≠ site.originalInstruction)
    (hcode : ∀ site ∈ sites, code site.address = site.patchedInstruction) :
    RolledBack code (rollbackSites rollback code sites).1 sites
      (rollbackSites rollback code sites).2.2 := by
  induction sites generalizing code with
  | nil =>
    exact ⟨List.Sublist.refl _, fun _ h => absurd h not_mem_nil,
      fun _ h => absurd h not_mem_nil, fun _ _ => rfl⟩
  | cons site rest ih =>
    obtain ⟨hfresh, hrest⟩ := nodup_cons.mp hnodup
    have hother : ∀ other ∈ rest, other.address ≠ site.address := fun other h heq =>
      hfresh (mem_map.mpr ⟨other, h, heq⟩)
    have hsite := hcode site mem_cons_self
    have hsiteNe := hne site mem_cons_self
    -- The tail runs on code that differs at most at this site.
    have htail : ∀ code', (∀ other, other ≠ site.address → code' other = code other) →
        RolledBack code' (rollbackSites rollback code' rest).1 rest
          (rollbackSites rollback code' rest).2.2 := by
      intro code' hsame
      refine ih hrest (fun other h => hne other (mem_cons_of_mem _ h)) fun other h => ?_
      rw [hsame _ (hother other h)]
      exact hcode other (mem_cons_of_mem _ h)
    have hnotResidual : ∀ code', RolledBack code' (rollbackSites rollback code' rest).1 rest
        (rollbackSites rollback code' rest).2.2 → site ∉ (rollbackSites rollback code' rest).2.2 :=
      fun _ h hin => hfresh (mem_map_of_mem (h.sublist.subset hin))
    -- The residual sites of the tail alone.
    have hskip : ∀ code', (∀ other, other ≠ site.address → code' other = code other) →
        code' site.address = site.originalInstruction →
        RolledBack code (rollbackSites rollback code' rest).1 (site :: rest)
          (rollbackSites rollback code' rest).2.2 := by
      intro code' hsame hvalue
      have h := htail code' hsame
      refine ⟨h.sublist.trans (sublist_cons_self _ _), h.kept, ?_, ?_⟩
      · intro other hin hres
        rcases mem_cons.mp hin with rfl | hin
        · rw [h.frame _ hfresh]
          exact hvalue
        · exact h.restored other hin hres
      · intro address haddress
        rw [map_cons, mem_cons, not_or] at haddress
        rw [h.frame _ haddress.2]
        exact hsame _ haddress.1
    rw [rollbackSites, if_neg (fun heq => hsiteNe (hsite.symm.trans heq)), if_pos hsite]
    cases houtcome : rollback site.address with
    | ok =>
      simp only [writeExecutableInstruction]
      exact hskip _ (fun other h => update_of_ne h _ _) (update_self _ _ _)
    | failBefore =>
      simp only [writeExecutableInstruction, if_pos hsite]
      have h := htail code fun _ _ => rfl
      refine ⟨h.sublist.cons_cons _, ?_, ?_, ?_⟩
      · intro other hin
        rcases mem_cons.mp hin with rfl | hin
        · rw [h.frame _ hfresh]
          exact hsite
        · exact h.kept other hin
      · intro other hin hres
        rcases mem_cons.mp hin with rfl | hin
        · exact absurd mem_cons_self hres
        · exact h.restored other hin fun hin' => hres (mem_cons_of_mem _ hin')
      · intro address haddress
        rw [map_cons, mem_cons, not_or] at haddress
        exact h.frame _ haddress.2
    | failAfter =>
      have hvalue : update code site.address site.originalInstruction site.address =
          site.originalInstruction := update_self _ _ _
      simp only [writeExecutableInstruction, hvalue, if_neg hsiteNe.symm]
      exact hskip _ (fun other h => update_of_ne h _ _) hvalue

/-! ## Install -/

/-- The loop of the install reaches a write that fails after its store. -/
def installStoresThenFails (s : ReturnState) (outcomes : InstallOutcomes) : Bool :=
  match planInstall s outcomes with
  | (_, .error _) => false
  | (payload, .ok (returnEntry, candidates)) =>
    storesThenFails payload.returnPatches returnEntry
      (payload.returnEntryPublished || outcomes.retained) outcomes.write s.code candidates

theorem dropIdleReturnEntry_frame (payload : DartCodePayload) :
    payload.dropIdleReturnEntry.pristine = payload.pristine ∧
      payload.dropIdleReturnEntry.returnPatches = payload.returnPatches ∧
      payload.dropIdleReturnEntry.returnInterceptionConsumers =
        payload.returnInterceptionConsumers := by
  unfold DartCodePayload.dropIdleReturnEntry DartCodePayload.destroyUnpublishedReturnEntry
  split
  · split
    · exact ⟨rfl, rfl, rfl⟩
    · exact ⟨rfl, rfl, rfl⟩
  · exact ⟨rfl, rfl, rfl⟩

/-- The plan changes only the veneer, and its candidates are RETs of the pristine code. -/
theorem planInstall_spec {s : ReturnState} {outcomes : InstallOutcomes} {payload : DartCodePayload}
    {result : Result (Address × List Arm64ReturnPatch)}
    (h : planInstall s outcomes = (payload, result)) :
    (payload.pristine = s.payload.pristine ∧ payload.returnPatches = s.payload.returnPatches ∧
        payload.returnInterceptionConsumers = s.payload.returnInterceptionConsumers) ∧
      ∀ returnEntry candidates, result = .ok (returnEntry, candidates) →
        candidates ≠ [] ∧ Candidates s.payload.pristine candidates := by
  unfold planInstall at h
  dsimp only at h
  split at h
  · cases h
    exact ⟨⟨rfl, rfl, rfl⟩, fun _ _ heq => nomatch heq⟩
  · split at h
    · cases h
      exact ⟨⟨rfl, rfl, rfl⟩, fun _ _ heq => nomatch heq⟩
    · split at h
      · cases h
        exact ⟨⟨rfl, rfl, rfl⟩, fun _ _ heq => nomatch heq⟩
      · split at h
        · cases h
          exact ⟨dropIdleReturnEntry_frame _, fun _ _ heq => nomatch heq⟩
        · next candidates hcollect =>
          split at h
          · cases h
            exact ⟨dropIdleReturnEntry_frame _, fun _ _ heq => nomatch heq⟩
          · split at h
            · cases h
              exact ⟨dropIdleReturnEntry_frame _, fun _ _ heq => nomatch heq⟩
            · cases h
              refine ⟨⟨rfl, rfl, rfl⟩, fun returnEntry found heq => ?_⟩
              cases heq
              split at hcollect
              · obtain ⟨hne, hnodup, hsites⟩ := collectReachableArm64Returns_spec hcollect
                exact ⟨hne, hnodup, fun site hin => (hsites site hin).1,
                  fun site hin => (hsites site hin).2⟩
              · cases hcollect

/-- What an install records, whatever its writes do: it shares some patches and brings fresh ones,
and its hook lists exactly these. -/
structure Recorded (s s' : ReturnState) (shared : List Address) (fresh : List Arm64ReturnPatch) :
    Prop where
  pristine : s'.payload.pristine = s.payload.pristine
  patches : s'.payload.returnPatches = (s.payload.returnPatches.map fun patch =>
    if patch.address ∈ shared then gainConsumer patch else patch) ++ fresh
  consumers : s'.payload.returnInterceptionConsumers = s.payload.returnInterceptionConsumers +
    if s'.hook.payloadReturnConsumer then 1 else 0
  idle : s'.hook.payloadReturnConsumer = false ↔ s'.hook.payloadReturnSites = []
  nodup : s'.hook.payloadReturnSites.Nodup
  sites : ∀ address, address ∈ s'.hook.payloadReturnSites ↔
    address ∈ shared ∨ address ∈ fresh.map Arm64ReturnPatch.address
  shared : ∀ address ∈ shared, ∃ patch ∈ s.payload.returnPatches, patch.address = address
  freshNodup : (fresh.map Arm64ReturnPatch.address).Nodup
  fresh : ∀ patch ∈ fresh, Interception s.payload.pristine patch ∧ patch.consumers = 1 ∧
    Unrecorded s.payload.returnPatches patch.address ∧
    s'.code patch.address = patch.patchedInstruction

section Install
variable {s s' t : ReturnState} {outcomes : InstallOutcomes}

/-- The books see only these three fields of the state before. -/
theorem Recorded.of_payload {shared : List Address} {fresh : List Arm64ReturnPatch}
    (h : Recorded t s' shared fresh) (hpristine : t.payload.pristine = s.payload.pristine)
    (hpatches : t.payload.returnPatches = s.payload.returnPatches)
    (hconsumers : t.payload.returnInterceptionConsumers =
      s.payload.returnInterceptionConsumers) : Recorded s s' shared fresh where
  pristine := h.pristine.trans hpristine
  patches := hpatches ▸ h.patches
  consumers := hconsumers ▸ h.consumers
  idle := h.idle
  nodup := h.nodup
  sites := h.sites
  shared := hpatches ▸ h.shared
  freshNodup := h.freshNodup
  fresh := hpatches ▸ hpristine ▸ h.fresh

/-- An install that records nothing. -/
theorem Recorded.refused (hconsumer : s'.hook.payloadReturnConsumer = false)
    (hsites : s'.hook.payloadReturnSites = []) (hpristine : s'.payload.pristine = s.payload.pristine)
    (hpatches : s'.payload.returnPatches = s.payload.returnPatches)
    (hconsumers : s'.payload.returnInterceptionConsumers =
      s.payload.returnInterceptionConsumers) : Recorded s s' [] [] where
  pristine := hpristine
  patches := by
    simp only [not_mem_nil, if_false, map_id', append_nil, hpatches]
  consumers := by
    rw [hconsumers, hconsumer]
    rfl
  idle := ⟨fun _ => hsites, fun _ => hconsumer⟩
  nodup := hsites ▸ nodup_nil
  sites := by
    intro address
    simp only [hsites, not_mem_nil, map_nil, or_self]
  shared := fun _ h => absurd h not_mem_nil
  freshNodup := nodup_nil
  fresh := fun _ h => absurd h not_mem_nil

/-- An install whose loop stopped: the residual sites are recorded, and the others are as they were
before the loop wrote them. -/
theorem rollbackNewlyInstalled_spec {newlyInstalled : List Arm64ReturnPatch}
    (rollback : Address → WriteOutcome) (error : String)
    (hconsumer : s.hook.payloadReturnConsumer = false) (hsites : s.hook.payloadReturnSites = [])
    (hnodup : (newlyInstalled.map Arm64ReturnPatch.address).Nodup)
    (hnew : ∀ patch ∈ newlyInstalled, Interception s.payload.pristine patch ∧ patch.consumers = 1 ∧
      Unrecorded s.payload.returnPatches patch.address ∧
      s.code patch.address = patch.patchedInstruction) :
    ∃ residual,
      Recorded s (rollbackNewlyInstalled s rollback newlyInstalled error).1 [] residual ∧
      RolledBack s.code (rollbackNewlyInstalled s rollback newlyInstalled error).1.code
        newlyInstalled.reverse residual := by
  have hreverse : (newlyInstalled.reverse.map Arm64ReturnPatch.address).Nodup := by
    rw [map_reverse, nodup_reverse]
    exact hnodup
  have hback := rollbackSites_spec rollback hreverse
    (fun patch h => (hnew patch (mem_reverse.mp h)).1.ne)
    (fun patch h => (hnew patch (mem_reverse.mp h)).2.2.2)
  let residual := (rollbackSites rollback s.code newlyInstalled.reverse).2.2
  have hmem : ∀ patch ∈ residual, patch ∈ newlyInstalled := fun patch h =>
    mem_reverse.mp (hback.sublist.subset h)
  have hone : residual.map (fun patch => { patch with consumers := 1 }) = residual := by
    refine (map_congr_left fun patch h => ?_).trans (map_id' residual)
    show ({ patch with consumers := 1 } : Arm64ReturnPatch) = patch
    rw [← (hnew patch (hmem patch h)).2.1]
  refine ⟨residual, ?_, ?_⟩
  · unfold rollbackNewlyInstalled
    dsimp only
    by_cases hempty : residual = []
    · rw [if_pos hempty, hempty]
      obtain ⟨hpristine, hpatches, hconsumers⟩ := dropIdleReturnEntry_frame s.payload
      exact Recorded.refused hconsumer hsites hpristine hpatches hconsumers
    · rw [if_neg hempty]
      dsimp only
      obtain ⟨hpristine, hpatches, hconsumers⟩ := dropIdleReturnEntry_frame
        { s.payload with
          returnPatches := s.payload.returnPatches ++
            residual.map (fun patch => { patch with consumers := 1 })
          returnInterceptionConsumers := s.payload.returnInterceptionConsumers + 1 }
      have hmapNodup : (residual.map Arm64ReturnPatch.address).Nodup :=
        hreverse.sublist (hback.sublist.map _)
      refine ⟨hpristine, ?_, hconsumers, ?_, ?_, ?_, ?_, ?_, ?_⟩
      · refine hpatches.trans ?_
        show s.payload.returnPatches ++ residual.map _ = _
        rw [hone]
        simp only [not_mem_nil, if_false, map_id']
      · show true = false ↔ (residual.map _).map Arm64ReturnPatch.address = []
        rw [hone]
        simp only [reduceCtorEq, map_eq_nil_iff, hempty]
      · show ((residual.map _).map Arm64ReturnPatch.address).Nodup
        rw [hone]
        exact hmapNodup
      · intro address
        show address ∈ (residual.map _).map Arm64ReturnPatch.address ↔ _
        rw [hone]
        simp only [not_mem_nil, false_or]
      · exact fun _ h => absurd h not_mem_nil
      · exact hmapNodup
      · intro patch h
        obtain ⟨hi, hcount, hun, -⟩ := hnew patch (hmem patch h)
        exact ⟨hi, hcount, hun, hback.kept patch h⟩
  · unfold rollbackNewlyInstalled
    dsimp only
    split
    · exact hback
    · exact hback

theorem gainConsumer_address (patch : Arm64ReturnPatch) :
    (gainConsumer patch).address = patch.address := rfl

theorem acquired_start (pristine start : Code) (patches : List Arm64ReturnPatch)
    (published : Bool) :
    Acquired pristine start patches { code := start, published := published } where
  nodup := nodup_nil
  sites := fun _ => by simp only [not_mem_nil, map_nil, or_self]
  sharedNodup := nodup_nil
  shared := fun _ h => absurd h not_mem_nil
  newNodup := nodup_nil
  new := fun _ h => absurd h not_mem_nil
  frame := fun _ _ => rfl

/-- A loop that reached its end: everything it acquired is recorded. -/
theorem Acquired.recorded {acquisition : Acquisition} {payload : DartCodePayload}
    (h : Acquired s.payload.pristine s.code s.payload.returnPatches acquisition)
    (hkeys : (s.payload.returnPatches.map Arm64ReturnPatch.address).Nodup)
    (hne : acquisition.acquiredSites ≠ []) (hpristine : payload.pristine = s.payload.pristine)
    (hpatches : payload.returnPatches = s.payload.returnPatches)
    (hconsumers : payload.returnInterceptionConsumers = s.payload.returnInterceptionConsumers) :
    Recorded s
      { code := acquisition.code
        payload := { payload with
          returnEntryPublished := acquisition.published
          returnPatches := acquisition.existingConsumed.foldl (fun patches address =>
            alter Arm64ReturnPatch.address gainConsumer address patches) payload.returnPatches ++
              acquisition.newlyInstalled
          returnInterceptionConsumers := payload.returnInterceptionConsumers + 1 }
        hook := { s.hook with
          payloadReturnConsumer := true
          payloadReturnSites := acquisition.acquiredSites } }
      acquisition.existingConsumed acquisition.newlyInstalled where
  pristine := hpristine
  patches := by
    rw [← foldl_alter_eq_map gainConsumer_address h.sharedNodup hkeys, ← hpatches]
  consumers := congrArg (· + 1) hconsumers
  idle := by simp only [reduceCtorEq, hne]
  nodup := h.nodup
  sites := h.sites
  shared := h.shared
  freshNodup := h.newNodup
  fresh := fun patch hpatch =>
    ⟨(h.new patch hpatch).1, (h.new patch hpatch).2.1, (h.new patch hpatch).2.2.1,
      (h.new patch hpatch).2.2.2.2⟩

/-- A loop that stopped, on code that differs from the invariant's only where nothing has been
recorded or installed. -/
theorem Acquired.stopped {acquisition : Acquisition} {payload : DartCodePayload} {code : Code}
    (h : Acquired s.payload.pristine s.code s.payload.returnPatches
      { acquisition with code := code })
    (hcode : ∀ patch ∈ acquisition.newlyInstalled,
      acquisition.code patch.address = code patch.address)
    (rollback : Address → WriteOutcome) (error : String)
    (hconsumer : s.hook.payloadReturnConsumer = false) (hsites : s.hook.payloadReturnSites = [])
    (hpristine : payload.pristine = s.payload.pristine)
    (hpatches : payload.returnPatches = s.payload.returnPatches)
    (hconsumers : payload.returnInterceptionConsumers = s.payload.returnInterceptionConsumers) :
    ∃ residual,
      Recorded s (rollbackNewlyInstalled { s with
        code := acquisition.code
        payload := { payload with returnEntryPublished := acquisition.published } } rollback
          acquisition.newlyInstalled error).1 [] residual ∧
      RolledBack acquisition.code (rollbackNewlyInstalled { s with
        code := acquisition.code
        payload := { payload with returnEntryPublished := acquisition.published } } rollback
          acquisition.newlyInstalled error).1.code acquisition.newlyInstalled.reverse residual := by
  have hnew : ∀ patch ∈ acquisition.newlyInstalled, Interception payload.pristine patch ∧
      patch.consumers = 1 ∧ Unrecorded payload.returnPatches patch.address ∧
      acquisition.code patch.address = patch.patchedInstruction := by
    intro patch hpatch
    obtain ⟨hi, hone, hun, -, hat⟩ := h.new patch hpatch
    rw [hpristine, hpatches]
    exact ⟨hi, hone, hun, (hcode patch hpatch).trans hat⟩
  obtain ⟨residual, hrecorded, hback⟩ := rollbackNewlyInstalled_spec
    (s := { s with
      code := acquisition.code
      payload := { payload with returnEntryPublished := acquisition.published } })
    rollback error hconsumer hsites h.newNodup hnew
  exact ⟨residual, hrecorded.of_payload hpristine hpatches hconsumers, hback⟩

/-- New sites are not recorded ones. -/
theorem Acquired.recorded_not_new {acquisition : Acquisition} {pristine start : Code}
    {patches : List Arm64ReturnPatch} (h : Acquired pristine start patches acquisition)
    {patch : Arm64ReturnPatch} (hpatch : patch ∈ patches) :
    patch.address ∉ acquisition.newlyInstalled.map Arm64ReturnPatch.address := by
  intro hin
  obtain ⟨new, hnew, heq⟩ := mem_map.mp hin
  exact (h.new new hnew).2.2.1 patch hpatch heq.symm

theorem RolledBack.frame_of_reverse {code code' : Code} {sites residual : List Arm64ReturnPatch}
    (h : RolledBack code code' sites.reverse residual) {address : Address}
    (hout : address ∉ sites.map Arm64ReturnPatch.address) : code' address = code address :=
  h.frame address (by rwa [map_reverse, mem_reverse])

/-- After a clean stop, a site that was written and rolled back holds what it held at the start. -/
theorem Acquired.rolledBack {acquisition : Acquisition} {residual : List Arm64ReturnPatch}
    (h : Acquired s.payload.pristine s.code s.payload.returnPatches acquisition)
    (hback : RolledBack acquisition.code s'.code acquisition.newlyInstalled.reverse residual)
    {address : Address} (hout : address ∉ residual.map Arm64ReturnPatch.address) :
    s'.code address = s.code address := by
  by_cases hin : address ∈ acquisition.newlyInstalled.map Arm64ReturnPatch.address
  · obtain ⟨patch, hpatch, rfl⟩ := mem_map.mp hin
    have hres : patch ∉ residual := fun h => hout (mem_map_of_mem h)
    rw [(h.new patch hpatch).2.2.2.1]
    exact hback.restored patch (mem_reverse.mpr hpatch) hres
  · exact (hback.frame_of_reverse hin).trans (h.frame address hin)

/-- After a write that failed after its store, the rollback does not reach the orphan. -/
theorem Orphaned.rolledBack {acquisition : Acquisition} {residual : List Arm64ReturnPatch}
    (h : Orphaned s.payload.pristine s.code s.payload.returnPatches acquisition)
    (hrecorded : Recorded s s' [] residual)
    (hback : RolledBack acquisition.code s'.code acquisition.newlyInstalled.reverse residual) :
    (∀ patch ∈ s.payload.returnPatches, s'.code patch.address = s.code patch.address) ∧
      ∃ address, Unrecorded s'.payload.returnPatches address ∧
        isDartReturn (s.payload.pristine address) = true ∧
        isDartReturn (s'.code address) = false := by
  obtain ⟨code, orphan, branch, hacquired, hcode, hun, hout, hsite, hbranch⟩ := h
  refine ⟨fun patch hpatch => ?_, orphan, ?_, hsite, ?_⟩
  · have hnot := hacquired.recorded_not_new hpatch
    have hsame : acquisition.code patch.address = code patch.address := by
      rw [hcode]
      exact update_of_ne (hun patch hpatch) _ _
    exact (hback.frame_of_reverse hnot).trans (hsame.trans (hacquired.frame _ hnot))
  · intro patch hpatch
    rw [hrecorded.patches] at hpatch
    rcases mem_append.mp hpatch with hpatch | hpatch
    · simp only [not_mem_nil, if_false, map_id'] at hpatch
      exact hun patch hpatch
    · intro heq
      have hnew := mem_reverse.mp (hback.sublist.subset hpatch)
      exact hout (mem_map.mpr ⟨patch, hnew, heq⟩)
  · rw [hback.frame_of_reverse hout, hcode, update_self]
    exact hbranch

variable (outcomes) in
/-- Everything an install does: what it records, that patches already recorded keep their code, and
that code it has not recorded is unchanged, unless a write failed after its store, which leaves an
unrecorded RET site overwritten. -/
theorem install_spec (hconsumer : s.hook.payloadReturnConsumer = false)
    (hsites : s.hook.payloadReturnSites = [])
    (hkeys : (s.payload.returnPatches.map Arm64ReturnPatch.address).Nodup) :
    ∃ shared fresh,
      Recorded s (installArm64ReturnInterception s outcomes).1 shared fresh ∧
      (∀ patch ∈ s.payload.returnPatches,
        (installArm64ReturnInterception s outcomes).1.code patch.address = s.code patch.address) ∧
      if installStoresThenFails s outcomes = true then
        ∃ address,
          Unrecorded (installArm64ReturnInterception s outcomes).1.payload.returnPatches address ∧
          isDartReturn (s.payload.pristine address) = true ∧
          isDartReturn ((installArm64ReturnInterception s outcomes).1.code address) = false
      else ∀ address, address ∉ fresh.map Arm64ReturnPatch.address →
        (installArm64ReturnInterception s outcomes).1.code address = s.code address := by
  unfold installArm64ReturnInterception installStoresThenFails
  cases hplan : planInstall s outcomes with
  | mk payload result =>
    obtain ⟨⟨hpristine, hpatches, hconsumers⟩, hcandidates⟩ := planInstall_spec hplan
    cases result with
    | error failure =>
      refine ⟨[], [], Recorded.refused hconsumer hsites hpristine hpatches hconsumers,
        fun _ _ => rfl, ?_⟩
      rw [if_neg (by simp only [Bool.false_eq_true, not_false_eq_true])]
      exact fun _ _ => rfl
    | ok plan =>
      obtain ⟨returnEntry, candidates⟩ := plan
      obtain ⟨hne, hc⟩ := hcandidates returnEntry candidates rfl
      have hloop := acquireSites_spec returnEntry
        (payload.returnEntryPublished || outcomes.retained) outcomes.write hc (acquired_start s.payload.pristine s.code s.payload.returnPatches
          payload.returnEntryPublished) (fun _ _ h => absurd h not_mem_nil)
      rw [← hpatches] at hloop
      dsimp only
      cases hacquire : acquireSites payload.returnPatches returnEntry
          (payload.returnEntryPublished || outcomes.retained) outcomes.write
          { code := s.code, published := payload.returnEntryPublished } candidates with
      | mk acquisition error =>
        rw [hacquire] at hloop
        cases error with
        | none =>
          split at hloop
          · exact absurd hloop.1 (by simp only [Option.isSome_none, Bool.false_eq_true,
              not_false_eq_true])
          · next hstored =>
            obtain ⟨hacquired, hall⟩ := hloop
            rw [hpatches] at hacquired
            have hnonempty : acquisition.acquiredSites ≠ [] := by
              rw [hall rfl]
              simp only [nil_append, ne_eq, map_eq_nil_iff, hne, not_false_eq_true]
            refine ⟨acquisition.existingConsumed, acquisition.newlyInstalled,
              hacquired.recorded hkeys hnonempty hpristine hpatches hconsumers,
              fun patch hpatch => hacquired.frame _ (hacquired.recorded_not_new hpatch), ?_⟩
            rw [if_neg hstored]
            exact hacquired.frame
        | some error =>
          split at hloop
          · next hstored =>
            obtain ⟨-, horphaned⟩ := hloop
            rw [hpatches] at horphaned
            obtain ⟨code, orphan, branch, hacquired, hcode, hun, hout, hrest⟩ := horphaned
            obtain ⟨residual, hrecorded, hback⟩ := hacquired.stopped
              (fun patch hpatch => by
                rw [hcode]
                exact update_of_ne (fun heq =>
                  hout (mem_map.mpr ⟨patch, hpatch, heq⟩)) _ _)
              outcomes.rollback error hconsumer hsites hpristine hpatches hconsumers
            have horphan := Orphaned.rolledBack
              ⟨code, orphan, branch, hacquired, hcode, hun, hout, hrest⟩ hrecorded hback
            refine ⟨[], residual, hrecorded, horphan.1, ?_⟩
            rw [if_pos hstored]
            exact horphan.2
          · next hstored =>
            obtain ⟨hacquired, -⟩ := hloop
            rw [hpatches] at hacquired
            obtain ⟨residual, hrecorded, hback⟩ := hacquired.stopped (fun _ _ => rfl)
              outcomes.rollback error hconsumer hsites hpristine hpatches hconsumers
            refine ⟨[], residual, hrecorded, fun patch hpatch => ?_, ?_⟩
            · refine hacquired.rolledBack hback fun hin => ?_
              obtain ⟨kept, hkept, heq⟩ := mem_map.mp hin
              exact (hrecorded.fresh kept hkept).2.2.1 patch hpatch heq.symm
            · rw [if_neg hstored]
              exact fun address hout => hacquired.rolledBack hback hout

end Install

end DartPlant
