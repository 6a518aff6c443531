import DartPlant.Interceptor.InstallLaws

/-! # What a restore does

One specification for each loop of a restore, and then `restore_spec` for the transaction.  A
restore that fails changes nothing but code, and only at sites that are its hook's alone; whether it
puts that code back is the subject of `restoreSites_undo`.
-/

namespace DartPlant
open SharedLedger Function List

/-! ## The sites a restore rewrites -/

section Owned
variable {code : Code} {patches : List Arm64ReturnPatch}

variable (hkeys : (patches.map Arm64ReturnPatch.address).Nodup)
include hkeys

theorem find?_address_eq {patch : Arm64ReturnPatch} {address : Address} (hpatch : patch ∈ patches)
    (haddress : patch.address = address) :
    (patches.find? fun patch => patch.address == address) = some patch := by
  cases hfind : patches.find? fun patch => patch.address == address with
  | none => exact absurd haddress (find?_address_none.mp hfind patch hpatch)
  | some found =>
    obtain ⟨hmem, heq⟩ := find?_address_some hfind
    rw [inj_on_of_nodup_map hkeys hmem hpatch (heq.trans haddress.symm)]

/-- The first loop keeps the patches of the listed addresses that have one consumer. -/
theorem ownedSites_some {addresses : List Address} {sites : List Arm64ReturnPatch}
    (h : ownedSites code patches addresses = some sites) :
    (∀ address ∈ addresses, ∃ patch ∈ patches, patch.address = address ∧ patch.consumers ≠ 0 ∧
      code patch.address = patch.patchedInstruction) ∧ ∀ patch, patch ∈ sites ↔
        patch ∈ patches ∧ patch.address ∈ addresses ∧ patch.consumers = 1 := by
  induction addresses generalizing sites with
  | nil =>
    cases h
    refine ⟨fun _ h => absurd h not_mem_nil, fun patch => ?_⟩
    simp only [not_mem_nil, false_and, and_false]
  | cons address rest ih =>
    rw [ownedSites] at h
    cases hfind : patches.find? fun patch => patch.address == address with
    | none =>
      simp only [hfind, reduceCtorEq] at h
    | some found =>
      obtain ⟨hmem, haddress⟩ := find?_address_some hfind
      simp only [hfind] at h
      split at h
      · cases h
      · next hconsumers =>
        split at h
        · cases h
        · next hcode =>
          obtain ⟨restSites, hrest, rfl⟩ := Option.map_eq_some_iff.mp h
          obtain ⟨hall, hin⟩ := ih hrest
          refine ⟨?_, ?_⟩
          · intro other hother
            rcases mem_cons.mp hother with rfl | hother
            · exact ⟨found, hmem, haddress, hconsumers, not_not.mp hcode⟩
            · exact hall other hother
          · intro patch
            -- The head contributes the found patch, when it has one consumer.
            have hhead : patch ∈ patches → patch.address = address → patch = found := fun hp ha =>
              inj_on_of_nodup_map hkeys hp hmem (ha.trans haddress.symm)
            constructor
            · intro hpatch
              split at hpatch
              · next hone =>
                rcases mem_cons.mp hpatch with rfl | hpatch
                · exact ⟨hmem, haddress ▸ mem_cons_self, hone⟩
                · obtain ⟨hp, ha, hc⟩ := (hin patch).mp hpatch
                  exact ⟨hp, mem_cons_of_mem _ ha, hc⟩
              · obtain ⟨hp, ha, hc⟩ := (hin patch).mp hpatch
                exact ⟨hp, mem_cons_of_mem _ ha, hc⟩
            · rintro ⟨hp, ha, hc⟩
              rcases mem_cons.mp ha with ha | ha
              · rw [hhead hp ha] at hc ⊢
                rw [if_pos hc]
                exact mem_cons_self
              · have htail := (hin patch).mpr ⟨hp, ha, hc⟩
                split
                · exact mem_cons_of_mem _ htail
                · exact htail

/-- Different addresses give different sites. -/
theorem ownedSites_nodup
    {addresses : List Address} (hnodup : addresses.Nodup) {sites : List Arm64ReturnPatch}
    (h : ownedSites code patches addresses = some sites) :
    (sites.map Arm64ReturnPatch.address).Nodup := by
  induction addresses generalizing sites with
  | nil =>
    cases h
    exact nodup_nil
  | cons address rest ih =>
    obtain ⟨hfresh, hrestNodup⟩ := nodup_cons.mp hnodup
    rw [ownedSites] at h
    cases hfind : patches.find? fun patch => patch.address == address with
    | none =>
      simp only [hfind, reduceCtorEq] at h
    | some found =>
      simp only [hfind] at h
      split at h
      · cases h
      · split at h
        · cases h
        · obtain ⟨restSites, hrest, rfl⟩ := Option.map_eq_some_iff.mp h
          split
          · refine nodup_cons.mpr ⟨fun hin => ?_, ih hrestNodup hrest⟩
            obtain ⟨patch, hpatch, heq⟩ := mem_map.mp hin
            have hlisted := (((ownedSites_some hkeys hrest).2 patch).mp hpatch).2.1
            rw [heq, (find?_address_some hfind).2] at hlisted
            exact hfresh hlisted
          · exact ih hrestNodup hrest

/-- The first loop accepts sites that are all recorded and armed. -/
theorem ownedSites_isSome {addresses : List Address}
    (h : ∀ address ∈ addresses, ∃ patch ∈ patches, patch.address = address ∧ patch.consumers ≠ 0 ∧
      code patch.address = patch.patchedInstruction) :
    ∃ sites, ownedSites code patches addresses = some sites := by
  induction addresses with
  | nil => exact ⟨[], rfl⟩
  | cons address rest ih =>
    obtain ⟨sites, hsites⟩ := ih fun other hother => h other (mem_cons_of_mem _ hother)
    obtain ⟨patch, hpatch, haddress, hconsumers, hcode⟩ := h address mem_cons_self
    refine ⟨if patch.consumers = 1 then patch :: sites else sites, ?_⟩
    simp only [ownedSites, find?_address_eq hkeys hpatch haddress, if_neg hconsumers,
      if_neg (not_not.mpr hcode), hsites, Option.map_some]

end Owned

/-! ## The writes of a restore -/

/-- The restore writes stop at one that fails after its store. -/
def restoreStoresThenFails (write : Address → WriteOutcome) : List Arm64ReturnPatch → Bool
  | [] => false
  | patch :: rest =>
    match write patch.address with
    | .ok => restoreStoresThenFails write rest
    | .failBefore => false
    | .failAfter => true

/-- The sites a restore has rewritten when it stops, which are the ones it rolls back. -/
def rewrittenSites (write : Address → WriteOutcome) (sites : List Arm64ReturnPatch) :
    List Arm64ReturnPatch :=
  sites.takeWhile fun patch => write patch.address = .ok

section Writes
variable {code start : Code} {sites restored : List Arm64ReturnPatch}

/-- A rollback writes branches at its sites and nothing else. -/
theorem rewriteSites_frame (rollback : Address → WriteOutcome) (sites : List Arm64ReturnPatch)
    (code : Code) {address : Address} (h : address ∉ sites.map Arm64ReturnPatch.address) :
    (rewriteSites rollback code sites).1 address = code address := by
  induction sites generalizing code with
  | nil => rfl
  | cons site rest ih =>
    rw [map_cons, mem_cons, not_or] at h
    simp only [rewriteSites]
    rw [ih _ h.2, write_other _ h.1]

theorem rewriteSites_cases (rollback : Address → WriteOutcome)
    (hnodup : (sites.map Arm64ReturnPatch.address).Nodup) (code : Code) :
    ∀ site ∈ sites, (rewriteSites rollback code sites).1 site.address = site.patchedInstruction ∨
      (rewriteSites rollback code sites).1 site.address = code site.address := by
  induction sites generalizing code with
  | nil => exact fun _ h => absurd h not_mem_nil
  | cons site rest ih =>
    obtain ⟨hfresh, hrest⟩ := nodup_cons.mp hnodup
    intro other hother
    simp only [rewriteSites]
    rcases mem_cons.mp hother with rfl | hother
    · rw [rewriteSites_frame rollback rest _ hfresh]
      cases rollback other.address with
      | ok | failAfter => exact Or.inl (update_self _ _ _)
      | failBefore => exact Or.inr rfl
    · have hne : other.address ≠ site.address := fun heq =>
        hfresh (mem_map.mpr ⟨other, hother, heq⟩)
      have hsame : (writeExecutableInstruction code site.address site.patchedInstruction
          (rollback site.address)).1 other.address = code other.address := write_other _ hne
      rw [← hsame]
      exact ih hrest _ other hother

/-- A rollback whose writes succeed puts every branch back. -/
theorem rewriteSites_ok {rollback : Address → WriteOutcome}
    (hnodup : (sites.map Arm64ReturnPatch.address).Nodup)
    (hok : ∀ site ∈ sites, rollback site.address = .ok) (code : Code) :
    ∀ site ∈ sites, (rewriteSites rollback code sites).1 site.address =
      site.patchedInstruction := by
  induction sites generalizing code with
  | nil => exact fun _ h => absurd h not_mem_nil
  | cons site rest ih =>
    obtain ⟨hfresh, hrest⟩ := nodup_cons.mp hnodup
    intro other hother
    simp only [rewriteSites]
    rcases mem_cons.mp hother with rfl | hother
    · rw [rewriteSites_frame rollback rest _ hfresh, hok _ mem_cons_self]
      exact update_self _ _ _
    · exact ih hrest (fun site h => hok site (mem_cons_of_mem _ h)) _ other hother

/-- The second loop touches only its sites, which end up with their branch or their RET, and all with
their RET when it succeeds. -/
structure Rewritten (code code' : Code) (sites : List Arm64ReturnPatch) (ok : Prop) : Prop where
  frame : ∀ address, address ∉ sites.map Arm64ReturnPatch.address → code' address = code address
  owned : ∀ site ∈ sites, code' site.address = site.patchedInstruction ∨
    code' site.address = site.originalInstruction
  restored : ok → ∀ site ∈ sites, code' site.address = site.originalInstruction

theorem append_cons_eq {α : Type} (xs : List α) (x : α) (ys : List α) :
    xs ++ x :: ys = (xs ++ [x]) ++ ys := by
  rw [append_assoc, singleton_append]

theorem restoreSites_spec (outcomes : RestoreOutcomes)
    (hnodup : ((restored ++ sites).map Arm64ReturnPatch.address).Nodup)
    (hrestored : ∀ site ∈ restored, code site.address = site.originalInstruction)
    (hsites : ∀ site ∈ sites, code site.address = site.patchedInstruction) :
    Rewritten code (restoreSites outcomes code restored sites).1 (restored ++ sites)
      ((restoreSites outcomes code restored sites).2 = .ok ()) := by
  induction sites generalizing code restored with
  | nil =>
    refine ⟨fun _ _ => rfl, ?_, fun _ => ?_⟩
    · intro site hsite
      rw [append_nil] at hsite
      exact Or.inr (hrestored site hsite)
    · intro site hsite
      rw [append_nil] at hsite
      exact hrestored site hsite
  | cons patch rest ih =>
    have hpatch := hsites patch mem_cons_self
    rw [map_append, map_cons, nodup_append] at hnodup
    obtain ⟨hrestoredNodup, hrestNodup, hdisjoint⟩ := hnodup
    obtain ⟨hfresh, -⟩ := nodup_cons.mp hrestNodup
    have houtside : patch.address ∉ restored.map Arm64ReturnPatch.address := fun hin =>
      hdisjoint _ hin _ mem_cons_self rfl
    have hothers : ∀ site ∈ restored ++ rest, site.address ≠ patch.address := by
      intro site hsite heq
      rcases mem_append.mp hsite with hsite | hsite
      · exact houtside (mem_map.mpr ⟨site, hsite, heq⟩)
      · exact hfresh (mem_map.mpr ⟨site, hsite, heq⟩)
    -- Both ways to fail leave the code as it was, up to this site, and roll back.
    have hfailed : ∀ code', (∀ other, other ≠ patch.address → code' other = code other) →
        (code' patch.address = patch.patchedInstruction ∨
          code' patch.address = patch.originalInstruction) →
        ∀ ok : Prop, ¬ ok → Rewritten code
          (rewriteSites outcomes.rollback code' restored.reverse).1 (restored ++ patch :: rest)
          ok := by
      intro code' hsame hvalue ok hok
      have hreverse : (restored.reverse.map Arm64ReturnPatch.address).Nodup := by
        rw [map_reverse, nodup_reverse]
        exact hrestoredNodup
      have hframe : ∀ address, address ∉ restored.map Arm64ReturnPatch.address →
          (rewriteSites outcomes.rollback code' restored.reverse).1 address = code' address :=
        fun address h => rewriteSites_frame _ _ _ (by rwa [map_reverse, mem_reverse])
      refine ⟨?_, ?_, fun h => absurd h hok⟩
      · intro address h
        simp only [map_append, map_cons, mem_append, mem_cons, not_or] at h
        rw [hframe _ h.1]
        exact hsame _ h.2.1
      · intro site hsite
        rcases mem_append.mp hsite with hsite | hsite
        · refine (rewriteSites_cases outcomes.rollback hreverse code' site
            (mem_reverse.mpr hsite)).imp_right fun heq => ?_
          rw [heq, hsame _ (hothers site (mem_append_left _ hsite))]
          exact hrestored site hsite
        · rcases mem_cons.mp hsite with rfl | hsite
          · rw [hframe _ houtside]
            exact hvalue
          · have hout : site.address ∉ restored.map Arm64ReturnPatch.address := fun hin =>
              hdisjoint _ hin _ (mem_cons_of_mem _ (mem_map_of_mem hsite)) rfl
            left
            rw [hframe _ hout, hsame _ (hothers site (mem_append_right _ hsite))]
            exact hsites site (mem_cons_of_mem _ hsite)
    simp only [restoreSites, if_neg (not_not.mpr hpatch)]
    cases houtcome : outcomes.write patch.address with
    | ok =>
      simp only [writeExecutableInstruction]
      have hnext := @ih (update code patch.address patch.originalInstruction)
        (restored ++ [patch]) ?_ ?_ ?_
      · rw [← append_cons_eq] at hnext
        refine ⟨fun address h => ?_, hnext.owned, hnext.restored⟩
        rw [hnext.frame address h]
        refine update_of_ne (fun heq => h ?_) _ _
        exact mem_map.mpr ⟨patch, mem_append_right _ mem_cons_self, heq.symm⟩
      · rw [← append_cons_eq, map_append, map_cons, nodup_append]
        exact ⟨hrestoredNodup, hrestNodup, hdisjoint⟩
      · intro site hsite
        rcases mem_append.mp hsite with hsite | hsite
        · rw [update_of_ne (hothers site (mem_append_left _ hsite))]
          exact hrestored site hsite
        · rw [mem_singleton.mp hsite]
          exact update_self _ _ _
      · intro site hsite
        rw [update_of_ne (hothers site (mem_append_right _ hsite))]
        exact hsites site (mem_cons_of_mem _ hsite)
    | failBefore =>
      simp only [writeExecutableInstruction]
      exact hfailed code (fun _ _ => rfl) (Or.inl hpatch) _ (by simp only [reduceCtorEq,
        not_false_eq_true])
    | failAfter =>
      simp only [writeExecutableInstruction]
      exact hfailed _ (fun other h => update_of_ne h _ _)
        (Or.inr (update_self _ _ _)) _ (by simp only [reduceCtorEq, not_false_eq_true])

/-- With a rollback that succeeds, a second loop that fails has undone everything, unless a write
failed after its store: the site of that write keeps its RET. -/
theorem restoreSites_undo (outcomes : RestoreOutcomes)
    (hnodup : ((restored ++ sites).map Arm64ReturnPatch.address).Nodup)
    (hstart : ∀ site ∈ restored ++ sites, start site.address = site.patchedInstruction)
    (hcode : ∀ address, address ∉ restored.map Arm64ReturnPatch.address →
      code address = start address)
    (hback : ∀ site ∈ restored ++ rewrittenSites outcomes.write sites,
      outcomes.rollback site.address = .ok)
    (hfailed : (restoreSites outcomes code restored sites).2 ≠ .ok ()) :
    if restoreStoresThenFails outcomes.write sites = true then
      ∃ site ∈ sites, (restoreSites outcomes code restored sites).1 site.address =
        site.originalInstruction
    else (restoreSites outcomes code restored sites).1 = start := by
  induction sites generalizing code restored with
  | nil => exact absurd rfl hfailed
  | cons patch rest ih =>
    have hpatch := hstart patch (mem_append_right _ mem_cons_self)
    have hsplit := hnodup
    rw [map_append, map_cons, nodup_append] at hsplit
    obtain ⟨hrestoredNodup, hrestNodup, hdisjoint⟩ := hsplit
    have houtside : patch.address ∉ restored.map Arm64ReturnPatch.address := fun hin =>
      hdisjoint _ hin _ mem_cons_self rfl
    have hcurrent : code patch.address = patch.patchedInstruction :=
      (hcode _ houtside).trans hpatch
    have hreverse : (restored.reverse.map Arm64ReturnPatch.address).Nodup := by
      rw [map_reverse, nodup_reverse]
      exact hrestoredNodup
    simp only [restoreSites, if_neg (not_not.mpr hcurrent)] at hfailed ⊢
    cases houtcome : outcomes.write patch.address with
    | ok =>
      simp only [houtcome, writeExecutableInstruction, restoreStoresThenFails] at hfailed ⊢
      have hnext := @ih (update code patch.address patch.originalInstruction)
        (restored ++ [patch]) (by rwa [← append_cons_eq]) (by rwa [← append_cons_eq]) ?_ ?_ hfailed
      · by_cases hstored : restoreStoresThenFails outcomes.write rest = true
        · rw [if_pos hstored] at hnext ⊢
          obtain ⟨site, hsite, heq⟩ := hnext
          exact ⟨site, mem_cons_of_mem _ hsite, heq⟩
        · rw [if_neg hstored] at hnext ⊢
          exact hnext
      · intro address haddress
        rw [map_append, mem_append, not_or] at haddress
        rw [update_of_ne (fun heq => haddress.2 (mem_singleton.mpr heq))]
        exact hcode address haddress.1
      · intro site hsite
        refine hback site ?_
        have htake : rewrittenSites outcomes.write (patch :: rest) =
            patch :: rewrittenSites outcomes.write rest :=
          takeWhile_cons_of_pos (decide_eq_true houtcome)
        rw [htake, append_cons_eq]
        exact hsite
    | failBefore =>
      simp only [writeExecutableInstruction, restoreStoresThenFails, houtcome, Bool.false_eq_true,
        if_false]
      funext address
      by_cases hin : address ∈ restored.map Arm64ReturnPatch.address
      · obtain ⟨site, hsite, rfl⟩ := mem_map.mp hin
        rw [rewriteSites_ok hreverse (fun site h => hback site (mem_append_left _
          (mem_reverse.mp h))) code site (mem_reverse.mpr hsite)]
        exact (hstart site (mem_append_left _ hsite)).symm
      · rw [rewriteSites_frame _ _ _ (by rwa [map_reverse, mem_reverse])]
        exact hcode address hin
    | failAfter =>
      simp only [writeExecutableInstruction, restoreStoresThenFails, houtcome, if_true]
      refine ⟨patch, mem_cons_self, ?_⟩
      rw [rewriteSites_frame _ _ _ (by rwa [map_reverse, mem_reverse])]
      exact update_self _ _ _

/-- Writes that succeed reach the end of the second loop. -/
theorem restoreSites_ok {outcomes : RestoreOutcomes}
    (hnodup : (sites.map Arm64ReturnPatch.address).Nodup)
    (hcode : ∀ site ∈ sites, code site.address = site.patchedInstruction)
    (hok : ∀ site ∈ sites, outcomes.write site.address = .ok) :
    (restoreSites outcomes code restored sites).2 = .ok () := by
  induction sites generalizing code restored with
  | nil => rfl
  | cons patch rest ih =>
    obtain ⟨hfresh, hrest⟩ := nodup_cons.mp hnodup
    simp only [restoreSites, if_neg (not_not.mpr (hcode patch mem_cons_self)),
      hok patch mem_cons_self, writeExecutableInstruction]
    refine ih hrest (fun site hsite => ?_) fun site h => hok site (mem_cons_of_mem _ h)
    rw [update_of_ne fun heq => hfresh (mem_map.mpr ⟨site, hsite, heq⟩)]
    exact hcode site (mem_cons_of_mem _ hsite)

end Writes

/-! ## The books -/

theorem loseConsumer_address (patch : Arm64ReturnPatch) :
    (loseConsumer patch).address = patch.address := rfl

/-- The third loop reaches its end on recorded sites. -/
theorem releaseSites_eq {patches : List Arm64ReturnPatch} {addresses : List Address}
    (hkeys : (patches.map Arm64ReturnPatch.address).Nodup) (hnodup : addresses.Nodup)
    (h : ∀ address ∈ addresses, ∃ patch ∈ patches, patch.address = address ∧
      patch.consumers ≠ 0) :
    releaseSites patches addresses = (patches.map fun patch =>
      if patch.address ∈ addresses then loseConsumer patch else patch, true) := by
  have hfold : releaseSites patches addresses = (addresses.foldl (fun patches address =>
      alter Arm64ReturnPatch.address loseConsumer address patches) patches, true) := by
    induction addresses generalizing patches with
    | nil => rfl
    | cons address rest ih =>
      obtain ⟨hfresh, hrest⟩ := nodup_cons.mp hnodup
      obtain ⟨patch, hpatch, haddress, hconsumers⟩ := h address mem_cons_self
      have hmap : alter Arm64ReturnPatch.address loseConsumer address patches = patches.map _ :=
        alter_eq_map address hkeys
      have hkeys' : ((alter Arm64ReturnPatch.address loseConsumer address patches).map
          Arm64ReturnPatch.address).Nodup := by
        rw [hmap, map_map]
        refine (map_congr_left fun other _ => ?_) ▸ hkeys
        simp only [comp_apply]
        split <;> rfl
      rw [releaseSites, find?_address_eq hkeys hpatch haddress]
      simp only [if_neg hconsumers, foldl_cons]
      refine ih hkeys' hrest fun other hother => ?_
      obtain ⟨patch', hpatch', haddress', hconsumers'⟩ := h other (mem_cons_of_mem _ hother)
      refine ⟨patch', ?_, haddress', hconsumers'⟩
      rw [hmap]
      refine mem_map.mpr ⟨patch', hpatch', if_neg ?_⟩
      rw [haddress']
      rintro rfl
      exact hfresh hother
  rw [hfold, foldl_alter_eq_map loseConsumer_address hnodup hkeys]

/-- What a successful restore does to the books. -/
structure Released (s s' : ReturnState) : Prop where
  pristine : s'.payload.pristine = s.payload.pristine
  patches : s'.payload.returnPatches = (s.payload.returnPatches.map fun patch =>
    if patch.address ∈ s.hook.payloadReturnSites then loseConsumer patch else patch).filter
      fun patch => patch.consumers ≠ 0
  consumers : s'.payload.returnInterceptionConsumers = s.payload.returnInterceptionConsumers - 1
  consumer : s'.hook.payloadReturnConsumer = false
  sites : s'.hook.payloadReturnSites = []

/-- A restore that keeps the books: only code changes, and only at recorded sites, which end up with
their branch or their RET. -/
structure BooksKept (s s' : ReturnState) : Prop where
  payload : s'.payload = s.payload
  hook : s'.hook = s.hook
  code : ∀ address, s'.code address = s.code address ∨ ∃ patch ∈ s.payload.returnPatches,
    patch.address = address ∧ (s'.code address = patch.patchedInstruction ∨
      s'.code address = patch.originalInstruction)

section Restore
variable {s : ReturnState}

/-- A hook that is no consumer has nothing to restore. -/
theorem restore_idle (outcomes : RestoreOutcomes) (h : s.hook.payloadReturnConsumer = false) :
    restoreArm64ReturnInterception s outcomes = (s, .ok ()) := by
  rw [restoreArm64ReturnInterception, if_pos h]

/-- Everything a restore does. -/
theorem restore_spec (outcomes : RestoreOutcomes)
    (hkeys : (s.payload.returnPatches.map Arm64ReturnPatch.address).Nodup)
    (hnodup : s.hook.payloadReturnSites.Nodup)
    (hlast : s.payload.returnInterceptionConsumers - 1 = 0 →
      ((s.payload.returnPatches.map fun patch =>
        if patch.address ∈ s.hook.payloadReturnSites then loseConsumer patch else patch).filter
          fun patch => patch.consumers ≠ 0) = []) :
    (BooksKept s (restoreArm64ReturnInterception s outcomes).1 ∧
        ((restoreArm64ReturnInterception s outcomes).2 = .ok () →
          s.hook.payloadReturnConsumer = false)) ∨
      (Released s (restoreArm64ReturnInterception s outcomes).1 ∧
        (restoreArm64ReturnInterception s outcomes).2 = .ok () ∧
        (∀ patch ∈ s.payload.returnPatches, patch.address ∈ s.hook.payloadReturnSites →
          patch.consumers = 1 → (restoreArm64ReturnInterception s outcomes).1.code patch.address =
            patch.originalInstruction) ∧
        ∀ address, (∀ patch ∈ s.payload.returnPatches, patch.address = address →
          ¬ (patch.address ∈ s.hook.payloadReturnSites ∧ patch.consumers = 1)) →
          (restoreArm64ReturnInterception s outcomes).1.code address = s.code address) := by
  by_cases hconsumer : s.hook.payloadReturnConsumer = false
  · rw [restore_idle outcomes hconsumer]
    exact Or.inl ⟨⟨rfl, rfl, fun _ => Or.inl rfl⟩, fun _ => hconsumer⟩
  · unfold restoreArm64ReturnInterception
    rw [if_neg hconsumer]
    by_cases hready : s.payload.returnInterceptionConsumers = 0 ∨ s.hook.payloadReturnSites = []
    · rw [if_pos hready]
      exact Or.inl ⟨⟨rfl, rfl, fun _ => Or.inl rfl⟩, fun h => nomatch h⟩
    · rw [if_neg hready]
      cases howned : ownedSites s.code s.payload.returnPatches s.hook.payloadReturnSites with
      | none => exact Or.inl ⟨⟨rfl, rfl, fun _ => Or.inl rfl⟩, fun h => nomatch h⟩
      | some sites =>
        obtain ⟨hall, hin⟩ := ownedSites_some hkeys howned
        have hwrites : Rewritten s.code (restoreSites outcomes s.code [] sites).1 ([] ++ sites)
            ((restoreSites outcomes s.code [] sites).2 = .ok ()) := restoreSites_spec outcomes
          (ownedSites_nodup hkeys hnodup howned) (fun _ h => absurd h not_mem_nil)
          (fun site hsite => by
            obtain ⟨hmem, hlisted, -⟩ := (hin site).mp hsite
            obtain ⟨patch, hpatch, heq, -, hcode⟩ := hall _ hlisted
            rwa [inj_on_of_nodup_map hkeys hpatch hmem heq] at hcode)
        rw [nil_append] at hwrites
        dsimp only
        cases hrestore : restoreSites outcomes s.code [] sites with
        | mk code result =>
          rw [hrestore] at hwrites
          have hcode : ∀ address, (∀ patch ∈ s.payload.returnPatches, patch.address = address →
              ¬ (patch.address ∈ s.hook.payloadReturnSites ∧ patch.consumers = 1)) →
              code address = s.code address := by
            intro address h
            refine hwrites.frame address fun hsite => ?_
            obtain ⟨patch, hpatch, heq⟩ := mem_map.mp hsite
            obtain ⟨hmem, hlisted, hone⟩ := (hin patch).mp hpatch
            exact h patch hmem heq ⟨hlisted, hone⟩
          cases result with
          | error text =>
            refine Or.inl ⟨⟨rfl, rfl, fun address => ?_⟩, fun h => nomatch h⟩
            by_cases hsite : address ∈ sites.map Arm64ReturnPatch.address
            · obtain ⟨patch, hpatch, rfl⟩ := mem_map.mp hsite
              exact Or.inr ⟨patch, ((hin patch).mp hpatch).1, rfl, hwrites.owned patch hpatch⟩
            · exact Or.inl (hwrites.frame address hsite)
          | ok _ =>
            have hrelease := releaseSites_eq hkeys hnodup fun address haddress => by
              obtain ⟨patch, hpatch, heq, hne, -⟩ := hall address haddress
              exact ⟨patch, hpatch, heq, hne⟩
            have hrestored : ∀ patch ∈ s.payload.returnPatches,
                patch.address ∈ s.hook.payloadReturnSites → patch.consumers = 1 →
                code patch.address = patch.originalInstruction := fun patch hpatch hlisted hone =>
              hwrites.restored rfl patch ((hin patch).mpr ⟨hpatch, hlisted, hone⟩)
            dsimp only
            rw [hrelease]
            dsimp only
            by_cases hidle : s.payload.returnInterceptionConsumers - 1 = 0
            · rw [if_pos hidle, if_neg (not_not.mpr (hlast hidle))]
              refine Or.inr ⟨⟨?_, ?_, ?_, rfl, rfl⟩, rfl, hrestored, hcode⟩
              · dsimp only [DartCodePayload.destroyUnpublishedReturnEntry]
                split <;> rfl
              · dsimp only [DartCodePayload.destroyUnpublishedReturnEntry]
                split <;> rfl
              · dsimp only [DartCodePayload.destroyUnpublishedReturnEntry]
                split <;> rfl
            · rw [if_neg hidle]
              exact Or.inr ⟨⟨rfl, rfl, rfl, rfl, rfl⟩, rfl, hrestored, hcode⟩

end Restore

end DartPlant
