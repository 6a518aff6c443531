import DartPlant.Interceptor.ReturnOwnership

/-! # Restores that fail

`FinishUnhookLocked` keeps a hook whose returns could not be restored, so that a later unhook can
try again.  That works when a failed restore leaves everything as it was: the next one insists that
every site still holds its branch.

A restore rolls back the sites it has rewritten, and the site whose write failed is not among them.
If that write failed after its store, the site keeps its RET, and no later restore gets past it.
-/

namespace DartPlant
open SharedLedger

/-- One call of the install. -/
structure InstallCall where
  entry : Address
  codeSize : BitVec 32
  outcomes : InstallOutcomes

/-- The payload after some installs, with whatever outcomes. -/
def installAll (w : PayloadWorld) (calls : List InstallCall) : PayloadWorld :=
  calls.foldl (fun w call => applyReturnOp w (.install call.entry call.codeSize call.outcomes)) w

/-- The state a restore of this hook works on. -/
def restoreState (w : PayloadWorld) (hook : ReturnHook) : ReturnState :=
  ⟨w.code, w.payload, hook⟩

/-- Every write succeeds. -/
def workingWrites : RestoreOutcomes := ⟨fun _ => .ok, fun _ => .ok⟩

/-- The sites that are the hook's alone, in the order in which a restore writes them. -/
def soleSites (w : PayloadWorld) (hook : ReturnHook) : List Arm64ReturnPatch :=
  (ownedSites w.code w.payload.returnPatches hook.payloadReturnSites).getD []

/-- The rollback writes that a restore of the hook makes all succeed. -/
def RollbackSucceeds (w : PayloadWorld) (hook : ReturnHook) (outcomes : RestoreOutcomes) : Prop :=
  ∀ site ∈ rewrittenSites outcomes.write (soleSites w hook), outcomes.rollback site.address = .ok

/-- The call changed nothing, and a retry with working writes succeeds. -/
structure RestoreUndone (w w' : PayloadWorld) (hook : ReturnHook) : Prop where
  code : ∀ address, isDartReturn (w.payload.pristine address) = true →
    w'.code address = w.code address
  patches : w'.payload.returnPatches = w.payload.returnPatches
  consumers : w'.payload.returnInterceptionConsumers = w.payload.returnInterceptionConsumers
  hooks : w'.hooks = w.hooks
  retry : (restoreArm64ReturnInterception (restoreState w' hook) workingWrites).2 = .ok ()

/-! ## Payloads reached by installs -/

/-- The books agree, and every recorded site holds its branch. -/
structure Armed (w : PayloadWorld) : Prop where
  booked : Booked w.payload w.hooks
  code : ∀ patch ∈ w.payload.returnPatches, w.code patch.address = patch.patchedInstruction

section Armed
variable {w : PayloadWorld} {hook : ReturnHook} {index : Nat}

theorem Armed.fresh (h : FreshPayload w) : Armed w where
  booked := Booked.fresh h
  code := by
    rw [h.patches]
    exact fun _ h => absurd h List.not_mem_nil

/-- An install arms what it records, whatever its writes do. -/
theorem Armed.install (h : Armed w) (call : InstallCall) :
    Armed (applyReturnOp w (.install call.entry call.codeSize call.outcomes)) := by
  let s : ReturnState := ⟨w.code, w.payload, ⟨call.entry, call.codeSize, false, []⟩⟩
  obtain ⟨shared, fresh, hrecorded, hold, -⟩ :=
    install_spec (s := s) call.outcomes rfl rfl h.booked.ledger.keys
  refine ⟨h.booked.install (s := s) hrecorded, fun patch hpatch => ?_⟩
  have hpatch' : patch ∈ (installArm64ReturnInterception s call.outcomes).1.payload.returnPatches :=
    hpatch
  rw [hrecorded.patches] at hpatch'
  rcases List.mem_append.mp hpatch' with hin | hin
  · obtain ⟨old, hmem, rfl⟩ := List.mem_map.mp hin
    have hcode := (hold old hmem).trans (h.code old hmem)
    split
    · exact hcode
    · exact hcode
  · exact (hrecorded.fresh patch hin).2.2.2

theorem Armed.installAll (h : Armed w) (calls : List InstallCall) : Armed (installAll w calls) := by
  induction calls generalizing w with
  | nil => exact h
  | cons call calls ih => exact ih (h.install call)

/-- A listed site is recorded, used and armed. -/
theorem Armed.site (h : Armed w) (hhook : hook ∈ w.hooks) :
    ∀ address ∈ hook.payloadReturnSites, ∃ patch ∈ w.payload.returnPatches,
      patch.address = address ∧ patch.consumers ≠ 0 ∧
        w.code patch.address = patch.patchedInstruction := by
  intro address haddress
  obtain ⟨patch, hpatch, heq⟩ := h.booked.ledger.recorded _ (List.mem_map_of_mem hhook) address
    haddress
  exact ⟨patch, hpatch, heq, (h.booked.ledger.positive patch hpatch).ne', h.code patch hpatch⟩

/-- The first loop of a restore accepts, and yields the sole sites. -/
theorem Armed.ownedSites (h : Armed w) (hhook : hook ∈ w.hooks) :
    ownedSites w.code w.payload.returnPatches hook.payloadReturnSites =
      some (soleSites w hook) := by
  obtain ⟨sites, hsites⟩ := ownedSites_isSome h.booked.ledger.keys (h.site hhook)
  rw [soleSites, hsites]
  rfl

theorem Armed.soleSites_nodup (h : Armed w) (hhook : hook ∈ w.hooks) :
    ((soleSites w hook).map Arm64ReturnPatch.address).Nodup :=
  ownedSites_nodup h.booked.ledger.keys (h.booked.ledger.nodup _ (List.mem_map_of_mem hhook))
    (h.ownedSites hhook)

theorem Armed.mem_soleSites (h : Armed w) (hhook : hook ∈ w.hooks) {site : Arm64ReturnPatch}
    (hsite : site ∈ soleSites w hook) : site ∈ w.payload.returnPatches :=
  (((ownedSites_some h.booked.ledger.keys (h.ownedSites hhook)).2 site).mp hsite).1

/-- A consumer's restore gets to its writes. -/
theorem Armed.ready (h : Armed w) (hhook : hook ∈ w.hooks)
    (hconsumer : hook.payloadReturnConsumer = true) :
    ¬ (w.payload.returnInterceptionConsumers = 0 ∨ hook.payloadReturnSites = []) := by
  rintro (hzero | hnil)
  · rw [h.booked.consumers, List.countP_eq_zero] at hzero
    exact hzero hook hhook hconsumer
  · rw [(h.booked.idle hook hhook).mpr hnil] at hconsumer
    cases hconsumer

/-- A restore whose writes reach the end of their loop succeeds. -/
theorem Armed.restore_ok (h : Armed w) (hget : w.hooks[index]? = some hook)
    (hconsumer : hook.payloadReturnConsumer = true) {outcomes : RestoreOutcomes}
    (hwrites : (restoreSites outcomes w.code [] (soleSites w hook)).2 = .ok ()) :
    (restoreArm64ReturnInterception (restoreState w hook) outcomes).2 = .ok () := by
  have hhook := List.mem_of_getElem? hget
  unfold restoreArm64ReturnInterception restoreState
  dsimp only
  rw [if_neg (by rw [hconsumer]; exact Bool.noConfusion), if_neg (h.ready hhook hconsumer),
    h.ownedSites hhook]
  dsimp only
  cases hrestore : restoreSites outcomes w.code [] (soleSites w hook) with
  | mk code result =>
    rw [hrestore] at hwrites
    obtain rfl : result = .ok () := hwrites
    dsimp only
    rw [releaseSites_eq h.booked.ledger.keys (h.booked.ledger.nodup _ (List.mem_map_of_mem hhook))
      fun address haddress => by
        obtain ⟨patch, hpatch, heq, hne, -⟩ := h.site hhook address haddress
        exact ⟨patch, hpatch, heq, hne⟩]
    dsimp only
    by_cases hlast : w.payload.returnInterceptionConsumers - 1 = 0
    · rw [if_pos hlast, if_neg (not_not.mpr (h.booked.last_released hget hconsumer hlast))]
    · rw [if_neg hlast]

/-- A restore whose writes stop changes at most code. -/
theorem Armed.restore_stopped (h : Armed w) (hhook : hook ∈ w.hooks)
    (hconsumer : hook.payloadReturnConsumer = true) {outcomes : RestoreOutcomes}
    (hwrites : (restoreSites outcomes w.code [] (soleSites w hook)).2 ≠ .ok ()) :
    (restoreArm64ReturnInterception (restoreState w hook) outcomes).1 =
        ⟨(restoreSites outcomes w.code [] (soleSites w hook)).1, w.payload, hook⟩ ∧
      (restoreArm64ReturnInterception (restoreState w hook) outcomes).2 ≠ .ok () := by
  unfold restoreArm64ReturnInterception restoreState
  dsimp only
  rw [if_neg (by rw [hconsumer]; exact Bool.noConfusion), if_neg (h.ready hhook hconsumer),
    h.ownedSites hhook]
  dsimp only
  cases hrestore : restoreSites outcomes w.code [] (soleSites w hook) with
  | mk code result =>
    cases result with
    | ok _ => exact absurd (by rw [hrestore]) hwrites
    | error text => exact ⟨rfl, fun h => nomatch h⟩

end Armed

/-- A write that fails after its store stops the second loop. -/
theorem restoreSites_stored {outcomes : RestoreOutcomes} {code : Code}
    {restored sites : List Arm64ReturnPatch}
    (hstored : restoreStoresThenFails outcomes.write sites = true) :
    (restoreSites outcomes code restored sites).2 ≠ .ok () := by
  induction sites generalizing code restored with
  | nil => cases hstored
  | cons patch rest ih =>
    rw [restoreStoresThenFails] at hstored
    by_cases hcurrent : code patch.address = patch.patchedInstruction
    · simp only [restoreSites, if_neg (not_not.mpr hcurrent)]
      cases houtcome : outcomes.write patch.address with
      | ok =>
        rw [houtcome] at hstored
        simp only [writeExecutableInstruction]
        exact ih hstored
      | failBefore =>
        rw [houtcome] at hstored
        cases hstored
      | failAfter => exact fun h => by cases h
    · simp only [restoreSites, if_pos hcurrent]
      exact fun h => by cases h

/-- On a payload reached by installs, when the rollback writes succeed, a restore that fails has
changed nothing and can be retried, exactly when its writes do not stop at one that fails after its
store. -/
theorem failed_restore_undone_iff {w : PayloadWorld} (hw : FreshPayload w)
    (calls : List InstallCall) {index : Nat} {hook : ReturnHook}
    (hget : (installAll w calls).hooks[index]? = some hook) {outcomes : RestoreOutcomes}
    (hback : RollbackSucceeds (installAll w calls) hook outcomes) :
    ((restoreArm64ReturnInterception (restoreState (installAll w calls) hook) outcomes).2 ≠
        .ok () →
      RestoreUndone (installAll w calls)
        (applyReturnOp (installAll w calls) (.restore index outcomes)) hook) ↔
      restoreStoresThenFails outcomes.write (soleSites (installAll w calls) hook) = false := by
  have h : Armed (installAll w calls) := (Armed.fresh hw).installAll calls
  generalize installAll w calls = v at *
  have hhook : hook ∈ v.hooks := List.mem_of_getElem? hget
  have happly : applyReturnOp v (.restore index outcomes) =
      ⟨(restoreArm64ReturnInterception (restoreState v hook) outcomes).1.code,
        (restoreArm64ReturnInterception (restoreState v hook) outcomes).1.payload,
        v.hooks.set index
          (restoreArm64ReturnInterception (restoreState v hook) outcomes).1.hook⟩ := by
    simp only [applyReturnOp, hget]
    rfl
  cases hconsumer : hook.payloadReturnConsumer with
  | false =>
    -- Such a hook has no sites, and its restore succeeds at once.
    have hok : (restoreArm64ReturnInterception (restoreState v hook) outcomes).2 = .ok () :=
      congrArg Prod.snd (restore_idle (s := restoreState v hook) outcomes hconsumer)
    have hnone : soleSites v hook = [] := by
      rw [soleSites, (h.booked.idle hook hhook).mp hconsumer]
      rfl
    rw [hnone]
    exact ⟨fun _ => rfl, fun _ hfailed => absurd hok hfailed⟩
  | true =>
    by_cases hwrites : (restoreSites outcomes v.code [] (soleSites v hook)).2 = .ok ()
    · have hok := h.restore_ok hget hconsumer hwrites
      refine ⟨fun _ => ?_, fun _ hfailed => absurd hok hfailed⟩
      exact Bool.eq_false_iff.mpr fun hstored => restoreSites_stored hstored hwrites
    · obtain ⟨hstate, hfailed⟩ := h.restore_stopped hhook hconsumer hwrites
      have hundo : if restoreStoresThenFails outcomes.write (soleSites v hook) = true then
            ∃ site ∈ soleSites v hook, (restoreSites outcomes v.code [] (soleSites v hook)).1
              site.address = site.originalInstruction
          else (restoreSites outcomes v.code [] (soleSites v hook)).1 = v.code :=
        restoreSites_undo outcomes (h.soleSites_nodup hhook)
          (fun site hsite => h.code site (h.mem_soleSites hhook hsite)) (fun _ _ => rfl) hback
          hwrites
      have hsame : v.hooks.set index hook = v.hooks := by
        obtain ⟨hlt, heq⟩ := List.getElem?_eq_some_iff.mp hget
        rw [← heq, List.set_getElem_self]
      rw [happly, hstate]
      dsimp only
      rw [hsame]
      by_cases hstored : restoreStoresThenFails outcomes.write (soleSites v hook) = true
      · rw [if_pos hstored] at hundo
        obtain ⟨site, hsite, horiginal⟩ := hundo
        refine ⟨fun hundone => ?_, fun hnot => absurd hstored (Bool.eq_false_iff.mp hnot)⟩
        have hmem := h.mem_soleSites hhook hsite
        have hinterception := h.booked.interceptions site hmem
        have hcode := (hundone hfailed).code site.address hinterception.site
        exact absurd ((h.code site hmem).symm.trans (hcode.symm.trans horiginal)) hinterception.ne
      · rw [if_neg hstored] at hundo
        refine ⟨fun _ => Bool.eq_false_iff.mpr hstored, fun _ _ => ?_⟩
        rw [hundo]
        refine ⟨fun _ _ => rfl, rfl, rfl, rfl, h.restore_ok hget hconsumer ?_⟩
        exact restoreSites_ok (h.soleSites_nodup hhook)
          (fun site hsite => h.code site (h.mem_soleSites hhook hsite)) fun _ _ => rfl

/-! ## A restore write that fails after its store -/

/-- The shared body, with its first entry installed. -/
def installedPayload : PayloadWorld :=
  installAll sharedPayload [⟨0x1000, 32, installWrites (fun _ => .ok) fun _ => .ok⟩]

/-- The hook of the first entry. -/
def installedHook : ReturnHook := ⟨0x1000, 32, true, [0x100c, 0x1018]⟩

/-- One restore write fails so; the others, and the rollback, succeed. -/
def failingRestore (address : Address) (outcome : WriteOutcome) : RestoreOutcomes :=
  ⟨fun other => if other = address then outcome else .ok, fun _ => .ok⟩

/-- The second site keeps its RET, while the books still say that it holds its branch. -/
theorem stored_restore_not_undone :
    ¬ ∀ (index : Nat) (hook : ReturnHook) (outcomes : RestoreOutcomes),
      installedPayload.hooks[index]? = some hook →
      RollbackSucceeds installedPayload hook outcomes →
      (restoreArm64ReturnInterception (restoreState installedPayload hook) outcomes).2 ≠ .ok () →
      RestoreUndone installedPayload
        (applyReturnOp installedPayload (.restore index outcomes)) hook := by
  intro h
  have hundone := h 0 installedHook (failingRestore 0x1018 .failAfter) (by decide +kernel)
    (fun _ _ => rfl) (by decide +kernel)
  have hcode := hundone.code 0x1018 (by decide +kernel)
  revert hcode
  decide +kernel

/-- A write that fails before its store is undone. -/
theorem unstored_restore_undone :
    RestoreUndone installedPayload
      (applyReturnOp installedPayload (.restore 0 (failingRestore 0x1018 .failBefore)))
      installedHook := by
  have hget : installedPayload.hooks[0]? = some installedHook := by decide +kernel
  have hback : RollbackSucceeds installedPayload installedHook
      (failingRestore 0x1018 .failBefore) := fun _ _ => rfl
  exact (failed_restore_undone_iff sharedPayload_fresh _ hget hback).mpr (by decide +kernel)
    (by decide +kernel)

end DartPlant
