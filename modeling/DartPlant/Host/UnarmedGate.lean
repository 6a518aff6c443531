import DartPlant.Host.GateLaws
import DartPlant.Lib.Runs

/-! # A gate that was never armed

`GateOp` is every operation the owner and the entrants of one published hook can perform after its
installation.  The gate of a prepared hook is blocking, and installation leaves it blocking, on a
bypass or failed, whatever the host does; so as long as nobody arms it no entrant should be handed
the callback entry.

The one way out is the failure path of the physical unhook.  `closePublishedHostHook` accepts a gate
that is still installing or on the backup bypass, and a failing host then has it put back not to the
state it came from but to draining, which is a callback state.  `unarmed_callback_iff` shows that
this is the only way: along a run in which arming has no effect, the callback stays out of reach
exactly when no step puts a closed gate back.
-/

namespace DartPlant
open Runs HostPublicationGateState

/-- The operations on one installed published hook.  `uninstall` carries what the host unhook
callback answers if it is called. -/
inductive GateOp where
  | arm
  | beginDrain
  | close
  | uninstall (hostUnhook : Bool)
  | reopen
  | acquire
  | release
  deriving DecidableEq, Repr

/-- The hook after one operation. -/
def applyGateOp (p : PublishedHostHook) : GateOp → PublishedHostHook
  | .arm => armPublishedHostHook p
  | .beginDrain => beginDrainPublishedHostHook p
  | .close => (closePublishedHostHook p).1
  | .uninstall hostUnhook => (uninstallPublishedHostHook p hostUnhook).1
  | .reopen => reopenPublishedHostHookDrain p
  | .acquire => ((acquirePublishedHostHookRoute p).map Prod.fst).getD p
  | .release => releasePublishedHostHookEntrant p

/-- An entrant arriving now is sent to the callback entry. -/
def HandsCallback (p : PublishedHostHook) : Prop :=
  ∃ q pinned, acquirePublishedHostHookRoute p = some (q, .callback pinned)

/-- No entrant is handed the callback, and without a backup the gate is neither armed nor
draining. -/
def CallbackUnreachable (p : PublishedHostHook) : Prop :=
  ¬ HandsCallback p ∧ (p.gate.backup = nullptr →
    loadGateState p.gate ≠ armed.toWord ∧
    loadGateState p.gate ≠ draining.toWord)

/-- The operation is not an arming that `armPublishedHostHook` would carry out. -/
def ArmWithoutEffect (p : PublishedHostHook) (op : GateOp) : Prop :=
  op = .arm → p.backendInstalled = false ∨ p.gate.backup = nullptr

/-- The operation puts a closed gate back to draining: a reopening of a closed idle gate, or an
uninstallation that closes an idle gate and whose host does not restore the target. -/
def Reopens (p : PublishedHostHook) (op : GateOp) : Prop :=
  p.backendInstalled = true ∧ publishedHostHookEntrantsIdle p = true ∧
    match op with
    | .reopen => loadGateState p.gate = closed.toWord
    | .uninstall hostUnhook =>
      (loadGateState p.gate = closed.toWord ∨
        loadGateState p.gate = draining.toWord ∨
        loadGateState p.gate = installing.toWord ∨
        loadGateState p.gate = bypassBackup.toWord) ∧
      (hostCanUnhook p = false ∨ hostUnhook = false)
    | _ => False

/-- The invariant of an unarmed gate: nobody is pinned and the state is not a callback state. -/
def Unarmed (p : PublishedHostHook) : Prop :=
  ∃ s, p.gate.control = encodeGateControl s 0#32 ∧ s ≠ .armed ∧ s ≠ .draining

/-! ## Preparation and installation establish the invariant -/

/-- Storing a state other than armed and draining over an idle word. -/
theorem Unarmed.of_store {p q : PublishedHostHook} {s t : HostPublicationGateState}
    (h : p.gate.control = encodeGateControl s 0#32) (hq : q.gate = storeGateState p.gate t)
    (ha : t ≠ .armed) (hd : t ≠ .draining) : Unarmed q :=
  ⟨t, by rw [hq]; exact storeGateState_control h t, ha, hd⟩

theorem failedHostHook_unarmed {p : PublishedHostHook}
    (h : p.gate.control = encodeGateControl .installing 0#32) (policy : HostPublicationPolicy)
    (backup : Address) (status : Int) : Unarmed (failedHostHook policy p backup status) := by
  unfold failedHostHook
  split
  · by_cases hb : backup ≠ nullptr
    · rw [if_pos hb]
      exact Unarmed.of_store h rfl (by decide) (by decide)
    · rw [if_neg hb]
      exact ⟨.installing, h, by decide, by decide⟩
  · split
    · exact Unarmed.of_store h rfl (by decide) (by decide)
    · exact Unarmed.of_store h rfl (by decide) (by decide)

/-- Whatever the host does, installation stores only blocking, bypass and failed states. -/
theorem installPublishedHostHook_unarmed {p : PublishedHostHook}
    (h : p.gate.control = encodeGateControl .installing 0#32) (host : HostHookOutcome) :
    Unarmed (installPublishedHostHook p host).1 := by
  unfold installPublishedHostHook
  cases p.binding with
  | none => exact ⟨.installing, h, by decide, by decide⟩
  | some binding =>
    dsimp only
    split
    · exact ⟨.installing, h, by decide, by decide⟩
    · split
      · refine failedHostHook_unarmed ?_ _ _ _
        exact h
      · split
        · exact ⟨.installing, h, by decide, by decide⟩
        · exact ⟨.installing, h, by decide, by decide⟩

/-! ## What an unarmed gate can do -/

section Steps
variable {p : PublishedHostHook}

theorem Unarmed.setControl {s : HostPublicationGateState} (ha : s ≠ .armed) (hd : s ≠ .draining) :
    Unarmed (p.setControl s 0#32) :=
  ⟨s, setControl_control p s 0#32, ha, hd⟩

theorem Unarmed.callbackUnreachable (h : Unarmed p) : CallbackUnreachable p := by
  obtain ⟨s, hs, ha, hd⟩ := h
  refine ⟨?_, fun _ => ?_⟩
  · rintro ⟨q, pinned, hroute⟩
    rw [acquirePublishedHostHookRoute_eq hs] at hroute
    cases s <;> simp_all
  · rw [loadGateState_eq hs, ne_eq, ne_eq, toWord_inj,
      toWord_inj]
    exact ⟨ha, hd⟩

/-- A gate that drains without entrants hands out the callback. -/
theorem handsCallback_of_draining (h : p.gate.control = encodeGateControl .draining 0#32) :
    HandsCallback p := by
  have hroute := acquirePublishedHostHookRoute_eq h
  dsimp only at hroute
  by_cases ht : p.trackGeneratedEntrants = false
  · exact ⟨p, false, by rw [hroute, if_pos ht]⟩
  · exact ⟨_, true, by rw [hroute, if_neg ht, if_neg (by decide)]⟩

/-- Closing keeps an unarmed gate unarmed. -/
theorem Unarmed.close (h : Unarmed p) : Unarmed (closePublishedHostHook p).1 := by
  obtain ⟨s, hs, ha, hd⟩ := h
  rw [closePublishedHostHook_eq hs]
  split
  · exact ⟨s, hs, ha, hd⟩
  · split
    · exact ⟨s, hs, ha, hd⟩
    · split
      · exact Unarmed.setControl (by decide) (by decide)
      · exact ⟨s, hs, ha, hd⟩

/-- Closing an idle gate: the states it closes from, and the closed word after it. -/
theorem closePublishedHostHook_closed {s : HostPublicationGateState}
    (hs : p.gate.control = encodeGateControl s 0#32) (hb : p.backendInstalled = true) :
    closePublishedHostHook p =
      if s = .closed ∨ s = .draining ∨ s = .installing ∨ s = .bypassBackup then
        (p.setControl .closed 0#32, true)
      else (p, false) := by
  rw [closePublishedHostHook_eq hs, if_neg (by simp [hb])]
  by_cases hc : s = .closed
  · subst hc
    have hself : p.setControl .closed 0#32 = p := by
      simp only [PublishedHostHook.setControl, ← hs]
    rw [if_pos rfl, if_pos (Or.inl rfl), hself]
    rfl
  · by_cases hcl : s = .draining ∨ s = .installing ∨ s = .bypassBackup
    · rw [if_neg hc, if_pos ⟨hcl, rfl⟩, if_pos (Or.inr hcl)]
    · rw [if_neg hc, if_neg fun h => hcl h.1, if_neg fun h => h.elim hc hcl]

/-- The uninstallation of an idle gate, split as the code splits it. -/
theorem uninstallPublishedHostHook_unarmed {s : HostPublicationGateState}
    (hs : p.gate.control = encodeGateControl s 0#32) (hostUnhook : Bool) :
    (uninstallPublishedHostHook p hostUnhook).1 =
      if p.backendInstalled = false then p.setControl .bypassTarget 0#32
      else if s = .closed ∨ s = .draining ∨ s = .installing ∨ s = .bypassBackup then
        if hostCanUnhook p = false ∨ hostUnhook = false then p.setControl .draining 0#32
        else { p.setControl .bypassTarget 0#32 with backendInstalled := false }
      else p := by
  unfold uninstallPublishedHostHook
  cases hb : p.backendInstalled with
  | false =>
    rw [if_pos rfl, if_pos rfl, ← storeGateState_eq hs]
    simp only [hb]
  | true =>
    have hinstalled : ¬ true = false := by decide
    have hidle : ¬ publishedHostHookEntrantsIdle p = false := by
      simp [publishedHostHookEntrantsIdle_eq hs]
    rw [if_neg hinstalled, if_neg hinstalled, if_neg hidle, closePublishedHostHook_closed hs hb]
    by_cases hcl : s = .closed ∨ s = .draining ∨ s = .installing ∨ s = .bypassBackup
    · rw [if_pos hcl, if_pos hcl]
      have hclosed : (p.setControl .closed 0#32).gate.control = encodeGateControl .closed 0#32 :=
        setControl_control _ _ _
      have hreopen : reopenPublishedHostHookDrain (p.setControl .closed 0#32) =
          p.setControl .draining 0#32 := by
        rw [reopenPublishedHostHookDrain_eq hclosed, if_pos ⟨hb, rfl, rfl⟩]
        rfl
      have hbypass := storeGateState_eq hclosed .bypassTarget
      dsimp only
      rw [if_neg hinstalled, hreopen]
      by_cases hfail : hostCanUnhook p = false ∨ hostUnhook = false
      · have hfail' : hostCanUnhook (p.setControl .closed 0#32) = false ∨ hostUnhook = false := hfail
        rw [if_pos hfail, if_pos hfail']
      · have hfail' : ¬ (hostCanUnhook (p.setControl .closed 0#32) = false ∨ hostUnhook = false) :=
          hfail
        rw [if_neg hfail, if_neg hfail']
        exact congrArg (fun q : PublishedHostHook => { q with backendInstalled := false }) hbypass
    · rw [if_neg hcl, if_neg hcl]
      rfl

/-- A step that does not reopen keeps an unarmed gate unarmed. -/
theorem Unarmed.step (h : Unarmed p) {op : GateOp} (harm : ArmWithoutEffect p op)
    (hop : ¬ Reopens p op) : Unarmed (applyGateOp p op) := by
  obtain ⟨s, hs, ha, hd⟩ := h
  have hkeep : Unarmed p := ⟨s, hs, ha, hd⟩
  cases op with
  | arm =>
    simp only [applyGateOp, armPublishedHostHook, if_pos (harm rfl)]
    exact hkeep
  | beginDrain =>
    simp only [applyGateOp, beginDrainPublishedHostHook_eq hs, ha, and_false, if_false]
    exact hkeep
  | close => exact hkeep.close
  | reopen =>
    have hno : ¬ (p.backendInstalled = true ∧ s = .closed ∧ (0#32 : BitVec 32) = 0#32) := by
      rintro ⟨hb, rfl, -⟩
      exact hop ⟨hb, by simp [publishedHostHookEntrantsIdle_eq hs], loadGateState_eq hs⟩
    have hsame : applyGateOp p .reopen = p := by
      rw [applyGateOp, reopenPublishedHostHookDrain_eq hs, if_neg hno]
    rw [hsame]
    exact hkeep
  | uninstall hostUnhook =>
    simp only [applyGateOp, uninstallPublishedHostHook_unarmed hs]
    split
    · exact Unarmed.setControl (by decide) (by decide)
    · next hb =>
      split
      · next hcl =>
        split
        · next hfail =>
          refine absurd ⟨by simpa using hb, by simp [publishedHostHookEntrantsIdle_eq hs], ?_⟩ hop
          refine ⟨?_, hfail⟩
          simpa only [loadGateState_eq hs, toWord_inj] using hcl
        · exact ⟨.bypassTarget, rfl, by decide, by decide⟩
      · exact hkeep
  | acquire =>
    have hsame : applyGateOp p .acquire = p := by
      simp only [applyGateOp, acquirePublishedHostHookRoute_eq hs]
      cases s <;> simp_all
    rw [hsame]
    exact hkeep
  | release =>
    simp only [applyGateOp, releasePublishedHostHookEntrant_eq hs, ne_eq, not_true_eq_false,
      and_false, if_false]
    exact hkeep

/-- A step that reopens leaves a gate that hands out the callback. -/
theorem Unarmed.reopens (h : Unarmed p) {op : GateOp} (hop : Reopens p op) :
    HandsCallback (applyGateOp p op) := by
  obtain ⟨s, hs, -, -⟩ := h
  obtain ⟨hb, -, hop⟩ := hop
  apply handsCallback_of_draining
  cases op with
  | reopen =>
    dsimp only at hop
    rw [loadGateState_eq hs, toWord_inj] at hop
    rw [applyGateOp, reopenPublishedHostHookDrain_eq hs, if_pos ⟨hb, hop, rfl⟩]
    rfl
  | uninstall hostUnhook =>
    dsimp only at hop
    simp only [loadGateState_eq hs, toWord_inj] at hop
    rw [applyGateOp, uninstallPublishedHostHook_unarmed hs, if_neg (by simp [hb]), if_pos hop.1,
      if_pos hop.2]
    rfl
  | arm | beginDrain | close | acquire | release => exact hop.elim

end Steps

/-! ## The whole run -/

/-- Along every run of a prepared hook in which arming has no effect, whatever its installation
came to, the callback is out of reach exactly when no step puts a closed gate back to draining. -/
theorem unarmed_callback_iff (binding : Option HostApiBinding)
    (target callbackEntry testingGateEntry : Address) (track : Bool) (stub : Address × Nat)
    (host : HostHookOutcome) (ops : List GateOp) (p : PublishedHostHook)
    (hprepare : preparePublishedHostHook .fresh binding target callbackEntry track
      testingGateEntry stub = (p, .ok ()))
    (harm : AlongSteps applyGateOp ArmWithoutEffect (installPublishedHostHook p host).1 ops) :
    (CallbackUnreachable p ∧
        Along applyGateOp CallbackUnreachable (installPublishedHostHook p host).1 ops) ↔
      AlongSteps applyGateOp (fun q op => ¬ Reopens q op) (installPublishedHostHook p host).1
        ops := by
  have hp := (preparePublishedHostHook_ok hprepare).1
  have hinstalled := installPublishedHostHook_unarmed hp host
  have hprepared : CallbackUnreachable p :=
    Unarmed.callbackUnreachable ⟨.installing, hp, by decide, by decide⟩
  rw [and_iff_right hprepared]
  exact along_iff (I := Unarmed) (R := ArmWithoutEffect) (fun q hq => hq.callbackUnreachable)
    (fun q op hq harm hop => hq.step harm hop)
    (fun q op hq _ hop hsafe => hsafe.1 (hq.reopens (not_not.mp hop))) harm hinstalled

/-- A strict host binding. -/
def strictBinding : HostApiBinding where
  hook := false
  unhook := true
  hookWithPublication := true
  publicationPolicy := .strict

/-- A gate prepared for that binding. -/
def preparedStrictHook : PublishedHostHook :=
  (preparePublishedHostHook .fresh (some strictBinding) 0x1000 0x2000 true 0x3000 (nullptr, 0)).1

/-- A host hook call that succeeds and never passes a backup. -/
def hookedWithoutBackup : HostHookOutcome where
  status := 0
  readyBackups := []
  backup := nullptr

/-- The rule on a run that closes the idle gate and whose host then restores the target: nothing is
put back and no entrant reaches the callback. -/
theorem unarmed_callback_iff_clean_unhook :
    (CallbackUnreachable preparedStrictHook ∧
      Along applyGateOp CallbackUnreachable
        (installPublishedHostHook preparedStrictHook hookedWithoutBackup).1
        [.close, .uninstall true, .acquire]) ↔
    AlongSteps applyGateOp (fun q op => ¬ Reopens q op)
      (installPublishedHostHook preparedStrictHook hookedWithoutBackup).1
      [.close, .uninstall true, .acquire] := by
  refine unarmed_callback_iff (some strictBinding) 0x1000 0x2000 0x3000 true (nullptr, 0)
    hookedWithoutBackup _ preparedStrictHook rfl ?_
  simp only [alongSteps_cons, alongSteps_nil, ArmWithoutEffect, reduceCtorEq, false_imp_iff,
    and_self]

/-- A hook whose host reported success without a backup is never armed, yet one failed physical
unhook makes its gate hand out the callback. -/
theorem unarmed_gate_hands_callback :
    preparePublishedHostHook .fresh (some strictBinding) 0x1000 0x2000 true 0x3000 (nullptr, 0) =
        (preparedStrictHook, .ok ()) ∧
      (installPublishedHostHook preparedStrictHook hookedWithoutBackup).1.gate.backup = nullptr ∧
      AlongSteps applyGateOp ArmWithoutEffect
        (installPublishedHostHook preparedStrictHook hookedWithoutBackup).1 [.uninstall false] ∧
      ¬ Along applyGateOp CallbackUnreachable
        (installPublishedHostHook preparedStrictHook hookedWithoutBackup).1 [.uninstall false] := by
  refine ⟨rfl, rfl, ?_, ?_⟩
  · simp only [alongSteps_cons, alongSteps_nil, and_true, ArmWithoutEffect, reduceCtorEq,
      false_imp_iff]
  · intro h
    simp only [along_cons, along_nil] at h
    exact h.2.1 ⟨_, true, rfl⟩

end DartPlant
