import DartPlant.Core.GatedHookInvariant

/-! # Physical unhook exclusion

The host unhook callback frees the backup trampoline, so it must not run while a CPU can still
execute it or be sent into the hook.  `physical_unhook_exclusive` is the statement over whole runs:
at every call of the callback the gate word is closed with no entrant, the record counts nobody and
no CPU is inside the hook; and after a call that succeeded every entrant is routed to the target.

The first half reads the invariant where the callback is called.  The second is that a restored
backend is never owned again (`Unhooked`).
-/

namespace DartPlant
open Census Runs

variable {β ι : Type} {w w' : GatedHook β ι}

/-- A gate without pins and a record without invocations leave no CPU inside the hook. -/
theorem Counts.nobody_inside (h : Counts w) {s : HostPublicationGateState}
    (hg : GateAt w s 0#32) (hz : w.hook.inFlight = 0) (i : ι) :
    ¬ CpuPhase.InsideHook (w.cpu i) := by
  have hpin : ¬ CpuPhase.HoldsEntrant (w.cpu i) := hg.no_pin i
  have hcount : ¬ CpuPhase.CountedInFlight (w.cpu i) := by
    refine census_eq_zero.mp ?_ i
    rw [h.inFlight, hz]
    rfl
  have hun := h.noUntracked i
  generalize w.cpu i = phase at hpin hcount hun
  cases phase with
  | outside => exact id
  | handed | retained => exact fun _ => hpin trivial
  | begun | running => exact fun _ => hcount trivial
  | untracked => exact absurd rfl hun
  | finishing pinned =>
    cases pinned with
    | false => exact id
    | true => exact fun _ => hpin trivial

/-- The host has restored the target: the bypass is about to be stored, or the backend is no longer
owned. -/
def Unhooked (w : GatedHook β ι) : Prop :=
  w.owner = .uninstallBypass ∨ w.published.backendInstalled = false

/-- The lock holder never takes a backend back. -/
theorem ownerStep_unhooked (h : Unhooked w) (hstep : ownerStep w = some w') : Unhooked w' := by
  rcases h with ho | hb
  · simp only [ownerStep, ho, Option.some.injEq] at hstep
    subst hstep
    exact Or.inr rfl
  · have harm : armPublishedHostHook w.published = w.published := by
      rw [armPublishedHostHook, if_pos (Or.inl hb)]
    have hdrain : beginDrainPublishedHostHook w.published = w.published := by
      rw [beginDrainPublishedHostHook, if_pos hb]
    have hclose : closePublishedHostHook w.published = (w.published, false) := by
      rw [closePublishedHostHook, if_pos hb]
    have hreopen : reopenPublishedHostHookDrain w.published = w.published := by
      rw [reopenPublishedHostHookDrain, if_pos hb]
    right
    unfold ownerStep at hstep
    rw [harm, hdrain, hclose, hreopen] at hstep
    cases hw : w.owner with
    | free | hostUnhook | restoreReturns => simp only [hw, reduceCtorEq] at hstep
    | arm | unhookIdle | exitRecheck | finishIdle | finishClose | finishRecheck | finishReopen
    | uninstallClose | uninstallReopen =>
      simp only [hw, Option.some.injEq] at hstep
      subst hstep
      exact hb
    | unhookDrain gatedDrain =>
      simp only [hw, ite_self, Option.some.injEq] at hstep
      subst hstep
      exact hb
    | finishDrain | uninstall | finishPublish restored =>
      simp only [hw] at hstep
      split at hstep
      · cases hstep
        exact hb
      · cases hstep
        exact hb
    | uninstallBypass =>
      simp only [hw, Option.some.injEq] at hstep
      subst hstep
      rfl

variable [DecidableEq ι]

theorem hookStep_unhooked {a : HookAction ι} (hs : Sound w) (h : Unhooked w)
    (hstep : hookStep w a = some w') : Unhooked w' := by
  cases a with
  | owner => exact ownerStep_unhooked h hstep
  | acquire i | retain i | beginInvocation i | releaseEntrant i | exit i | abandon i =>
    obtain ⟨-, hf, ho⟩ := cpuAction_spec hs hstep trivial
    exact h.imp (fun hu => ho.trans hu) (fun hb => hf.publishedBackend.trans hb)
  | removeHook =>
    simp only [hookStep] at hstep
    split at hstep
    · next ho =>
      split at hstep
      · cases hstep
        exact h
      · cases hstep
        exact Or.inr (h.resolve_left (by rw [ho]; decide))
    · cases hstep
  | hostUnhook restored | restoreReturns restored =>
    simp only [hookStep] at hstep
    split at hstep
    · next ho =>
      cases hstep
      exact Or.inr (h.resolve_left (by rw [ho]; decide))
    · cases hstep
  | lockToFinish i =>
    simp only [hookStep] at hstep
    split at hstep
    · split at hstep
      · next ho =>
        cases hstep
        exact Or.inr (h.resolve_left (by rw [ho]; decide))
      · cases hstep
    · cases hstep

theorem hostUnhook_unhooked (h : hookStep w (.hostUnhook true) = some w') : Unhooked w' := by
  simp only [hookStep] at h
  split at h
  · cases h
    exact Or.inl rfl
  · cases h

theorem run_unhooked {as : List (HookAction ι)} (hs : Sound w) (h : Unhooked w)
    (hrun : run hookStep w as = some w') : Unhooked w' := by
  have hboth : Sound w' ∧ Unhooked w' :=
    run_invariant (I := fun v => Sound v ∧ Unhooked v)
      (fun _ _ _ hv hstep => ⟨hookStep_sound hv.1 hstep, hookStep_unhooked hv.1 hv.2 hstep⟩)
      ⟨hs, h⟩ hrun
  exact hboth.2

omit [DecidableEq ι] in
/-- Once the target is restored an entrant waits or is routed to the target. -/
theorem Unhooked.route (h : Unhooked w) (hs : Sound w) {p : PublishedHostHook} {route : Route}
    (hroute : acquirePublishedHostHookRoute w.published = some (p, route)) : route = .target := by
  obtain ⟨-, hst⟩ := hs
  have hof : ∀ s, GateAt w s 0#32 → (s = .bypassTarget ∨ s = .closed) → route = .target := by
    rintro s hg (rfl | rfl)
    · rw [acquirePublishedHostHookRoute_eq hg.1] at hroute
      cases hroute
      rfl
    · rw [acquirePublishedHostHookRoute_eq hg.1] at hroute
      cases hroute
  rcases h with ho | hb
  · simp only [Standing, ho] at hst
    exact hof _ hst.2.1.2 (Or.inr rfl)
  · have hno : ¬ BackendOwned w := fun hown => by
      rw [hown.1] at hb
      cases hb
    unfold Standing at hst
    cases hw : w.owner with
    | arm =>
      simp only [hw] at hst
      exact absurd hst.1 hno
    | free | exitRecheck =>
      simp only [hw] at hst
      rcases hst with hopen | hr
      · exact absurd hopen.1.1 hno
      · exact hof _ hr.1.2.1 (Or.inl rfl)
    | unhookDrain gatedDrain | unhookIdle | finishDrain =>
      simp only [hw] at hst
      rcases hst.2 with hopen | hr
      · first
        | exact absurd hopen.1.1 hno
        | exact absurd hopen.1 hno
      · exact hof _ hr.1.2.1 (Or.inl rfl)
    | finishIdle | finishClose | finishRecheck | finishReopen =>
      simp only [hw] at hst
      exact absurd hst.2.1 hno
    | uninstall | uninstallClose | hostUnhook | uninstallReopen | uninstallBypass =>
      simp only [hw] at hst
      exact absurd hst.2.1.1 hno
    | finishPublish restored =>
      simp only [hw] at hst
      cases restored with
      | false => exact absurd hst.2.1 hno
      | true => exact hof _ hst.2.2.1 (Or.inl rfl)
    | restoreReturns =>
      simp only [hw] at hst
      exact hof _ hst.2.1.2.1 (Or.inl rfl)

/-- Along every run of an installed gated hook, with any number of CPUs, host failures and retries:
wherever the host unhook callback is invoked the gate word is closed without entrants, the record is
idle and no CPU is inside the hook; and after an invocation that succeeded every route is the
target. -/
theorem physical_unhook_exclusive {w₀ : GatedHook β ι} (hinit : Installed w₀)
    {as : List (HookAction ι)} (hrun : run hookStep w₀ as = some w) :
    (∀ restored v, hookStep w (.hostUnhook restored) = some v →
      w.published.gate.control = encodeGateControl .closed 0#32 ∧ w.hook.inFlight = 0 ∧
        ∀ i, ¬ CpuPhase.InsideHook (w.cpu i)) ∧
    (∀ before after, as = before ++ .hostUnhook true :: after →
      ∀ p route, acquirePublishedHostHookRoute w.published = some (p, route) →
        route = .target) := by
  have hsound := run_sound hinit hrun
  refine ⟨?_, ?_⟩
  · intro restored v hstep
    have ho : w.owner = .hostUnhook := by
      simp only [hookStep] at hstep
      split at hstep
      · assumption
      · cases hstep
    have hs := hsound.standing
    simp only [Standing, ho] at hs
    exact ⟨hs.2.1.2.1, hs.2.2, hsound.counts.nobody_inside hs.2.1.2 hs.2.2⟩
  · rintro before after rfl p route hroute
    obtain ⟨u, hbefore, hrest⟩ := run_append_eq_some.mp hrun
    obtain ⟨v, hunhook, hafter⟩ := run_cons_eq_some.mp hrest
    have hv := hookStep_sound (run_sound hinit hbefore) hunhook
    have hunhooked := run_unhooked hv (hostUnhook_unhooked hunhook) hafter
    exact hunhooked.route hsound hroute

theorem unhookSchedule_enabled : (run hookStep twoCpuHook unhookSchedule).isSome = true := by
  decide +kernel

theorem unhookedGate_enabled :
    (run hookStep twoCpuHook (unhookSchedule ++ [.hostUnhook true, .owner])).isSome = true := by
  decide +kernel

/-- The two CPUs' hook at the call of the host. -/
def atHostUnhook : GatedHook Unit (Fin 2) :=
  (run hookStep twoCpuHook unhookSchedule).get unhookSchedule_enabled

/-- The two CPUs' hook after the host succeeded and the bypass is stored. -/
def afterHostUnhook : GatedHook Unit (Fin 2) :=
  (run hookStep twoCpuHook (unhookSchedule ++ [.hostUnhook true, .owner])).get unhookedGate_enabled

/-- The exclusion at the call of the host, and the routes after it. -/
theorem physical_unhook_exclusive_two_cpus :
    (atHostUnhook.published.gate.control = encodeGateControl .closed 0#32 ∧
        atHostUnhook.hook.inFlight = 0 ∧ ∀ i, ¬ CpuPhase.InsideHook (atHostUnhook.cpu i)) ∧
      (∀ p route, acquirePublishedHostHookRoute afterHostUnhook.published = some (p, route) →
        route = .target) := by
  have howner : atHostUnhook.owner = .hostUnhook := by decide +kernel
  have hcall : hookStep atHostUnhook (.hostUnhook true) =
      some { atHostUnhook with owner := .uninstallBypass } := by
    rw [hookStep, if_pos howner]
    rfl
  exact ⟨(physical_unhook_exclusive twoCpuHook_installed (Option.some_get _).symm).1 true _ hcall,
    (physical_unhook_exclusive twoCpuHook_installed (Option.some_get _).symm).2 unhookSchedule
      [.owner] rfl⟩

/-! ## Destroying the record -/

omit [DecidableEq ι] in
/-- Once the target is restored, neither the gate nor the record counts anybody. -/
theorem Unhooked.idle (h : Unhooked w) (hs : Standing w) :
    w.hook.inFlight = 0 ∧ ∃ s, GateAt w s 0#32 := by
  rcases h with ho | hb
  · simp only [Standing, ho] at hs
    exact ⟨hs.2.2, _, hs.2.1.2⟩
  · have hno : ¬ BackendOwned w := fun hown => Bool.noConfusion (hown.1.symm.trans hb)
    have hidle (h : RestoredGate w) : w.hook.inFlight = 0 ∧ ∃ s, GateAt w s 0#32 := ⟨h.2.2, _, h.2.1⟩
    unfold Standing at hs
    cases hw : w.owner with
    | arm =>
      simp only [hw] at hs
      exact absurd hs.1 hno
    | free | exitRecheck =>
      simp only [hw] at hs
      exact hidle (hs.resolve_left fun hopen => hno hopen.1.1).1
    | unhookDrain gatedDrain =>
      simp only [hw] at hs
      exact hidle (hs.2.resolve_left fun hopen => hno hopen.1.1).1
    | unhookIdle | finishDrain =>
      simp only [hw] at hs
      exact hidle (hs.2.resolve_left fun hopen => hno hopen.1).1
    | finishIdle | finishClose | finishRecheck | finishReopen =>
      simp only [hw] at hs
      exact absurd hs.2.1 hno
    | uninstall | uninstallClose | hostUnhook | uninstallReopen | uninstallBypass =>
      simp only [hw] at hs
      exact absurd hs.2.1.1 hno
    | finishPublish restored =>
      simp only [hw] at hs
      cases restored with
      | false => exact absurd hs.2.1 hno
      | true => exact hidle hs.2
    | restoreReturns =>
      simp only [hw] at hs
      exact hidle hs.2.1

/-- A record that `ResetHooks` may take out of the registry is deserted: no CPU is inside the hook,
and whatever happens afterwards none is ever inside it again or is routed to its callback. -/
theorem destroyed_hook_deserted {w₀ : GatedHook β ι} (hinit : Installed w₀)
    {before after : List (HookAction ι)} (hbefore : run hookStep w₀ before = some w)
    (hlock : w.owner = .free) (hdestroy : canDestroyLocked w.hook = true)
    (hafter : run hookStep w after = some w') :
    w'.hook.inFlight = 0 ∧ (∀ i, ¬ CpuPhase.InsideHook (w'.cpu i)) ∧
      ∀ p route, acquirePublishedHostHookRoute w'.published = some (p, route) →
        route = .target := by
  have hs := run_sound hinit hbefore
  have hstate : w.hook.state = .unhooked := by
    simp only [canDestroyLocked, Bool.and_eq_true, decide_eq_true_eq] at hdestroy
    exact hdestroy.1.1
  have hrestored : RestoredGate w := by
    have hst := hs.standing
    simp only [Standing, hlock, hstate, reduceCtorEq, or_self, and_false, false_or] at hst
    exact hst.1
  have hunhooked := run_unhooked hs (Or.inr hrestored.1) hafter
  have hs' : Sound w' := run_invariant (fun _ _ _ hv hstep => hookStep_sound hv hstep) hs hafter
  obtain ⟨hidle, s, hgate⟩ := hunhooked.idle hs'.standing
  exact ⟨hidle, hs'.counts.nobody_inside hgate hidle, fun p route => hunhooked.route hs'⟩

/-- The two CPUs' hook is taken down, and a CPU comes to its entry. -/
theorem destroyed_hook_deserted_two_cpus :
    ∃ w w', run hookStep twoCpuHook
        (unhookSchedule ++ [.hostUnhook true, .owner, .owner, .restoreReturns true]) = some w ∧
      run hookStep w [.acquire 1] = some w' ∧ w'.hook.inFlight = 0 ∧
      (∀ i, ¬ CpuPhase.InsideHook (w'.cpu i)) ∧
      ∀ p route, acquirePublishedHostHookRoute w'.published = some (p, route) → route = .target := by
  refine ⟨_, _, rfl, rfl, ?_⟩
  exact destroyed_hook_deserted twoCpuHook_installed
    (rfl : run hookStep twoCpuHook (unhookSchedule ++
      [.hostUnhook true, .owner, .owner, .restoreReturns true]) = some _)
    rfl (by decide +kernel) (rfl : run hookStep (_ : GatedHook Unit (Fin 2)) [.acquire 1] = some _)

end DartPlant
