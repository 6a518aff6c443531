import DartPlant.Core.GatedHookInvariant

/-! # No lost unhook completion

`FinishUnhookLocked` returns early when it sees a pin or an invocation, and relies on a later exit to
call it again.  `no_lost_unhook` proves that this is enough: when no gate pin is kept for ever and
the outside restores what it is asked to, a hook that comes to rest is not left unhooking, and if an
unhook was requested it is unhooked.

The invariant is that an unhooking record with nobody at work on it still has a CPU on its way out
(`Pending`).  A lock holder that gives up saw a pin or an invocation, so such a CPU exists then; a
CPU that leaves either sees others counted or is itself the last one and goes on to finish.
-/

namespace DartPlant
open Census Runs CpuPhase

variable {β ι : Type}

/-- The actions of a run in which every dispatch is admitted normally and the host and the return
restoration succeed. -/
def HookAction.Admitted : HookAction ι → Prop
  | .retain _ | .abandon _ => False
  | .hostUnhook restored | .restoreReturns restored => restored = true
  | _ => True

/-- A CPU that will still come through `InvocationExited`, or is in it. -/
def CpuPhase.Pending : CpuPhase → Prop
  | handed | begun | running | finishing false => True
  | _ => False

/-- No thread is in the hook or in a hook-registry operation. -/
structure Quiescent (w : GatedHook β ι) : Prop where
  entrants : publishedHostHookEntrantCount w.published = 0
  inFlight : w.hook.inFlight = 0
  owner : w.owner = .free
  cpus : ∀ i, w.cpu i = .outside

/-- The invariant of the runs without kept pins. -/
structure Progress (w : GatedHook β ι) : Prop where
  sound : Sound w
  canUnhook : hostCanUnhook w.published = true
  state : w.hook.state = .installed ∨ w.hook.state = .unhooking ∨ w.hook.state = .unhooked
  owner : w.owner ≠ .uninstallReopen ∧ w.owner ≠ .finishPublish false
  cpus : ∀ i, w.cpu i = .outside ∨ Pending (w.cpu i)
  pending : w.hook.state = .unhooking → w.owner = .free ∨ w.owner = .finishReopen →
    ∃ i, Pending (w.cpu i)

section Owner
variable {w w' : GatedHook β ι}

theorem hostCanUnhook_of_binding {p q : PublishedHostHook} (h : q.binding = p.binding) :
    hostCanUnhook q = hostCanUnhook p := by
  unfold hostCanUnhook
  rw [h]

theorem ownerStep_cpu (hstep : ownerStep w = some w') : w'.cpu = w.cpu := by
  unfold ownerStep at hstep
  cases hw : w.owner with
  | free | hostUnhook | restoreReturns => simp only [hw, reduceCtorEq] at hstep
  | arm | unhookDrain gatedDrain | unhookIdle | exitRecheck | finishIdle | finishClose
  | finishRecheck | finishReopen | uninstallClose | uninstallReopen | uninstallBypass =>
    simp only [hw, Option.some.injEq] at hstep
    subst hstep
    rfl
  | finishDrain | finishPublish restored =>
    simp only [hw] at hstep
    split at hstep
    · cases hstep
      rfl
    · cases hstep
      rfl
  | uninstall =>
    simp only [hw] at hstep
    split at hstep
    · cases hstep
      rfl
    · split at hstep
      · cases hstep
        rfl
      · cases hstep
        rfl

theorem ownerStep_binding (hstep : ownerStep w = some w') :
    w'.published.binding = w.published.binding := by
  unfold ownerStep at hstep
  cases hw : w.owner with
  | free | hostUnhook | restoreReturns => simp only [hw, reduceCtorEq] at hstep
  | arm | unhookDrain gatedDrain | unhookIdle | exitRecheck | finishIdle | finishClose
  | finishRecheck | finishReopen | uninstallClose | uninstallReopen | uninstallBypass =>
    simp only [hw, Option.some.injEq] at hstep
    subst hstep
    first
    | rfl
    | exact armPublishedHostHook_binding _
    | exact closePublishedHostHook_binding _
    | exact reopenPublishedHostHookDrain_binding _
    | (cases gatedDrain
       · rfl
       · exact beginDrainPublishedHostHook_binding _)
  | finishDrain | finishPublish restored =>
    simp only [hw] at hstep
    split at hstep
    · cases hstep
      first
      | rfl
      | exact beginDrainPublishedHostHook_binding _
    · cases hstep
      rfl
  | uninstall =>
    simp only [hw] at hstep
    split at hstep
    · cases hstep
      rfl
    · split at hstep
      · cases hstep
        rfl
      · cases hstep
        rfl

/-- Somebody the record counts is on its way out. -/
theorem Progress.pending_of_inFlight (h : Progress w) (hz : w.hook.inFlight ≠ 0) :
    ∃ i, Pending (w.cpu i) := by
  have hne : census CountedInFlight w.cpu ≠ 0 := by
    rw [h.sound.counts.inFlight]
    exact_mod_cast hz
  obtain ⟨i, hi⟩ := exists_of_census_ne_zero hne
  refine ⟨i, (h.cpus i).resolve_left fun hout => ?_⟩
  rw [hout] at hi
  exact hi

/-- Somebody that holds a gate pin is on its way out. -/
theorem Progress.pending_of_pin (h : Progress w)
    (hne : census HoldsEntrant w.cpu ≠ 0) : ∃ i, Pending (w.cpu i) := by
  obtain ⟨i, hi⟩ := exists_of_census_ne_zero hne
  refine ⟨i, (h.cpus i).resolve_left fun hout => ?_⟩
  rw [hout] at hi
  exact hi

/-- The state and the place of the lock holder after one of its steps, and who is pending when it
lets go. -/
theorem ownerStep_progress (h : Progress w) (hstep : ownerStep w = some w') :
    w'.hook.state = w.hook.state ∧
      (w'.owner ≠ .uninstallReopen ∧ w'.owner ≠ .finishPublish false) ∧
      (w'.hook.state = .unhooking → w'.owner = .free ∨ w'.owner = .finishReopen →
        ∃ i, Pending (w.cpu i)) := by
  have hs := h.sound.standing
  unfold Standing at hs
  unfold ownerStep at hstep
  cases hw : w.owner with
  | free | hostUnhook | restoreReturns => simp only [hw, reduceCtorEq] at hstep
  | arm =>
    simp only [hw, Option.some.injEq] at hs hstep
    subst hstep
    refine ⟨rfl, ⟨by simp, by simp⟩, fun hu _ => ?_⟩
    rw [hs.2.2] at hu
    cases hu
  | unhookDrain gatedDrain | finishDrain =>
    simp only [hw] at hstep
    first
    | (cases hstep
       exact ⟨rfl, ⟨by simp, by simp⟩, fun _ ho => by simp at ho⟩)
    | (split at hstep <;> cases hstep <;>
       exact ⟨rfl, ⟨by simp, by simp⟩, fun _ ho => by simp at ho⟩)
  | unhookIdle | finishIdle =>
    simp only [hw, Option.some.injEq] at hstep
    subst hstep
    by_cases hz : w.hook.inFlight ≠ 0
    · simp only [if_pos hz]
      exact ⟨trivial, ⟨by simp, by simp⟩, fun _ _ => h.pending_of_inFlight hz⟩
    · simp only [if_neg hz]
      exact ⟨trivial, ⟨by simp, by simp⟩, fun _ ho => by simp at ho⟩
  | exitRecheck =>
    simp only [hw, Option.some.injEq] at hstep
    subst hstep
    by_cases hu : w.hook.state = .unhooking
    · simp only [if_pos hu]
      exact ⟨trivial, ⟨by simp, by simp⟩, fun _ ho => by simp at ho⟩
    · simp only [if_neg hu]
      exact ⟨trivial, ⟨by simp, by simp⟩, fun hk _ => absurd hk hu⟩
  | finishClose =>
    simp only [hw, Option.some.injEq] at hs hstep
    subst hstep
    rcases hs.2.close with ⟨hclose, -⟩ | ⟨hclose, hne⟩
    · simp only [hclose, if_true]
      exact ⟨trivial, ⟨by simp, by simp⟩, fun _ ho => by simp at ho⟩
    · simp only [hclose, Bool.false_eq_true, if_false]
      exact ⟨trivial, ⟨by simp, by simp⟩, fun _ _ => h.pending_of_pin hne⟩
  | finishRecheck =>
    simp only [hw, Option.some.injEq] at hstep
    subst hstep
    by_cases hz : w.hook.inFlight ≠ 0
    · simp only [if_pos hz]
      exact ⟨trivial, ⟨by simp, by simp⟩, fun _ _ => h.pending_of_inFlight hz⟩
    · simp only [if_neg hz]
      exact ⟨trivial, ⟨by simp, by simp⟩, fun _ ho => by simp at ho⟩
  | finishReopen =>
    simp only [hw, Option.some.injEq] at hs hstep
    subst hstep
    exact ⟨rfl, ⟨by simp, by simp⟩, fun hu _ => h.pending hu (Or.inr hw)⟩
  | uninstall =>
    simp only [hw] at hs hstep
    rw [if_neg (by simp [hs.2.1.1.1]), if_neg (by simp [hs.2.1.idle])] at hstep
    cases hstep
    exact ⟨rfl, ⟨by simp, by simp⟩, fun _ ho => by simp at ho⟩
  | uninstallClose =>
    simp only [hw] at hs
    simp only [hw, hs.2.1.close, h.canUnhook, if_true, Option.some.injEq, Bool.true_eq_false,
      if_false] at hstep
    subst hstep
    exact ⟨rfl, ⟨by simp, by simp⟩, fun _ ho => by simp at ho⟩
  | uninstallReopen => exact absurd hw h.owner.1
  | uninstallBypass =>
    simp only [hw, Option.some.injEq] at hstep
    subst hstep
    exact ⟨rfl, ⟨by simp, by simp⟩, fun _ ho => by simp at ho⟩
  | finishPublish restored =>
    cases restored with
    | false => exact absurd hw h.owner.2
    | true =>
      simp only [hw, if_true, Option.some.injEq] at hstep
      subst hstep
      exact ⟨rfl, ⟨by simp, by simp⟩, fun _ ho => by simp at ho⟩

theorem Progress.ownerStep (h : Progress w) (hstep : DartPlant.ownerStep w = some w') :
    Progress w' := by
  obtain ⟨hst, ho, hp⟩ := ownerStep_progress h hstep
  have hcpu := ownerStep_cpu hstep
  exact {
    sound := ownerStep_sound h.sound hstep
    canUnhook := (hostCanUnhook_of_binding (ownerStep_binding hstep)).trans h.canUnhook
    state := by rw [hst]; exact h.state
    owner := ho
    cpus := by rw [hcpu]; exact h.cpus
    pending := by rw [hcpu]; exact hp }

end Owner

/-! ## The other actions -/

section Actions
variable [DecidableEq ι] {w w' : GatedHook β ι}

theorem tidy_setCpu {i : ι} {phase : CpuPhase}
    (h : ∀ j, w.cpu j = .outside ∨ Pending (w.cpu j))
    (hp : phase = .outside ∨ Pending phase) :
    ∀ j, (w.setCpu i phase).cpu j = .outside ∨ Pending ((w.setCpu i phase).cpu j) := by
  intro j
  by_cases hj : j = i
  · subst hj
    simpa only [GatedHook.setCpu, Function.update_self] using hp
  · simpa only [GatedHook.setCpu, Function.update_of_ne hj] using h j

theorem pending_setCpu {i : ι} {phase : CpuPhase} (hp : Pending phase) :
    ∃ j, Pending ((w.setCpu i phase).cpu j) :=
  ⟨i, by simpa only [GatedHook.setCpu, Function.update_self] using hp⟩

variable (h : Progress w)
include h

/-- A CPU action keeps the invariant when it leaves every CPU outside or pending, and somebody
pending where the lock is free. -/
theorem Progress.of_cpu {a : HookAction ι} (hstep : hookStep w a = some w')
    (ha : a.IsCpu) (hcpus : ∀ i, w'.cpu i = .outside ∨ Pending (w'.cpu i))
    (hpending : w'.hook.state = .unhooking → (∃ i, Pending (w.cpu i)) →
      ∃ i, Pending (w'.cpu i)) : Progress w' := by
  obtain ⟨hc, hf, ho⟩ := cpuAction_spec h.sound hstep ha
  exact {
    sound := hookStep_sound h.sound hstep
    canUnhook := (hostCanUnhook_of_binding hf.binding).trans h.canUnhook
    state := by rw [hf.state]; exact h.state
    owner := by rw [ho]; exact h.owner
    cpus := hcpus
    pending := fun hu hown => by
      rw [ho] at hown
      exact hpending hu (h.pending (hf.state ▸ hu) hown) }

theorem Progress.acquire {i : ι} (hstep : hookStep w (.acquire i) = some w') : Progress w' := by
  have hacquire := hstep
  simp only [hookStep] at hacquire
  split at hacquire
  · rcases acquireStep_cases h.sound.counts hacquire with rfl | ⟨s, n, hg, hs, hn, rfl⟩
    · exact h
    · exact h.of_cpu hstep trivial (tidy_setCpu h.cpus (Or.inr trivial))
        fun _ _ => pending_setCpu trivial
  · cases hacquire

theorem Progress.beginInvocation {i : ι}
    (hstep : hookStep w (.beginInvocation i) = some w') : Progress w' := by
  have hbegin := hstep
  simp only [hookStep] at hbegin
  split at hbegin
  · next hi =>
    cases hbegin
    have hin : HoldsEntrant (w.cpu i) := by
      rw [hi]
      trivial
    obtain ⟨hst, hb⟩ := h.sound.standing.admits hin
    obtain ⟨-, -, -, hcpu⟩ := beginStep_spec h.sound.counts hi hst hb
    refine h.of_cpu hstep trivial ?_ ?_
    · rw [hcpu]
      exact tidy_setCpu h.cpus (Or.inr trivial)
    · intro _ _
      rw [hcpu]
      exact pending_setCpu trivial
  · cases hbegin

theorem Progress.releaseEntrant {i : ι}
    (hstep : hookStep w (.releaseEntrant i) = some w') : Progress w' := by
  have hrelease := hstep
  simp only [hookStep] at hrelease
  split at hrelease
  · cases hrelease
    exact h.of_cpu hstep trivial (tidy_setCpu h.cpus (Or.inr trivial))
      fun _ _ => pending_setCpu trivial
  · cases hrelease

/-- The exiting CPU is the last one and goes on to finish, or another one is still counted. -/
theorem Progress.exit {i : ι} (hstep : hookStep w (.exit i) = some w') : Progress w' := by
  have hexit := hstep
  simp only [hookStep] at hexit
  split at hexit
  · cases hexit
    have hcounts := (hookStep_sound h.sound hstep).counts
    rw [exitStep_eq] at hstep hcounts ⊢
    have hcpus : ∀ j, (({ w with hook := { w.hook with inFlight := w.hook.inFlight - 1 } } :
        GatedHook β ι).setCpu i (exitPhase w false)).cpu j = .outside ∨
        Pending ((({ w with hook := { w.hook with inFlight := w.hook.inFlight - 1 } } :
          GatedHook β ι).setCpu i (exitPhase w false)).cpu j) := by
      refine tidy_setCpu h.cpus ?_
      unfold exitPhase
      split
      · exact Or.inr trivial
      · exact Or.inl rfl
    refine h.of_cpu hstep trivial hcpus ?_
    intro hu _
    by_cases hz : w.hook.inFlight - 1 = 0
    · refine pending_setCpu ?_
      rw [exitPhase, if_pos ⟨hz, hu⟩]
      trivial
    · have hne : census CountedInFlight ((({ w with hook := { w.hook with
          inFlight := w.hook.inFlight - 1 } } : GatedHook β ι).setCpu i
          (exitPhase w false)).cpu) ≠ 0 := by
        rw [hcounts.inFlight]
        exact_mod_cast hz
      obtain ⟨j, hj⟩ := exists_of_census_ne_zero hne
      refine ⟨j, (hcpus j).resolve_left fun hout => ?_⟩
      rw [hout] at hj
      exact hj
  · cases hexit

theorem Progress.removeHook (hstep : hookStep w .removeHook = some w') : Progress w' := by
  have hsound := hookStep_sound h.sound hstep
  simp only [hookStep] at hstep
  split at hstep
  · rcases startUnhook_cases true w.hook with ⟨result, hdone, -⟩ | hdrain
    · rw [hdone] at hstep
      cases hstep
      exact h
    · rw [hdrain] at hstep
      cases hstep
      exact {
        sound := hsound
        canUnhook := h.canUnhook
        state := Or.inr (Or.inl rfl)
        owner := ⟨by simp, by simp⟩
        cpus := h.cpus
        pending := fun _ ho => by simp at ho }
  · cases hstep

theorem Progress.lockToFinish {i : ι}
    (hstep : hookStep w (.lockToFinish i) = some w') : Progress w' := by
  have hsound := hookStep_sound h.sound hstep
  simp only [hookStep] at hstep
  split at hstep
  · next pinned hi =>
    split at hstep
    · cases hstep
      cases pinned with
      | true => exact absurd (h.cpus i) (by simp [hi, Pending])
      | false =>
        exact {
          sound := hsound
          canUnhook := h.canUnhook
          state := h.state
          owner := ⟨by simp [GatedHook.setCpu], by simp [GatedHook.setCpu]⟩
          cpus := tidy_setCpu h.cpus (Or.inl rfl)
          pending := fun _ ho => by simp [GatedHook.setCpu] at ho }
    · cases hstep
  · cases hstep

/-- Every admitted action keeps the invariant. -/
theorem Progress.step {a : HookAction ι} (ha : a.Admitted)
    (hstep : hookStep w a = some w') : Progress w' := by
  cases a with
  | owner => exact h.ownerStep hstep
  | removeHook => exact h.removeHook hstep
  | acquire i => exact h.acquire hstep
  | beginInvocation i => exact h.beginInvocation hstep
  | releaseEntrant i => exact h.releaseEntrant hstep
  | exit i => exact h.exit hstep
  | lockToFinish i => exact h.lockToFinish hstep
  | retain i | abandon i => exact ha.elim
  | hostUnhook restored =>
    have hsound := hookStep_sound h.sound hstep
    simp only [HookAction.Admitted] at ha
    simp only [hookStep, ha, if_true] at hstep
    split at hstep
    · cases hstep
      exact {
        sound := hsound
        canUnhook := h.canUnhook
        state := h.state
        owner := ⟨by simp, by simp⟩
        cpus := h.cpus
        pending := fun _ ho => by simp at ho }
    · cases hstep
  | restoreReturns restored =>
    have hsound := hookStep_sound h.sound hstep
    simp only [HookAction.Admitted] at ha
    simp only [hookStep, ha] at hstep
    split at hstep
    · cases hstep
      exact {
        sound := hsound
        canUnhook := h.canUnhook
        state := Or.inr (Or.inr rfl)
        owner := ⟨by simp, by simp⟩
        cpus := h.cpus
        pending := fun hu _ => by simp [finishReturns, completeUnhook] at hu }
    · cases hstep

/-- Once an unhook was requested the record does not go back to installed. -/
theorem hookStep_requested {a : HookAction ι} (ha : a.Admitted)
    (hstep : hookStep w a = some w') (hreq : a = .removeHook ∨ w.hook.state ≠ .installed) :
    w'.hook.state ≠ .installed := by
  cases a with
  | owner =>
    rw [(ownerStep_progress h hstep).1]
    exact hreq.resolve_left (by simp)
  | acquire i | retain i | beginInvocation i | releaseEntrant i | exit i | abandon i =>
    rw [(cpuAction_spec h.sound hstep trivial).2.1.state]
    exact hreq.resolve_left (by simp)
  | removeHook =>
    simp only [hookStep] at hstep
    split at hstep
    · rcases startUnhook_cases true w.hook with ⟨result, hdone, hst⟩ | hdrain
      · rw [hdone] at hstep
        cases hstep
        rcases hst with hst | hst | hst <;> simp [hst]
      · rw [hdrain] at hstep
        cases hstep
        simp
    · cases hstep
  | hostUnhook restored | lockToFinish i =>
    have hstate : w'.hook.state = w.hook.state := by
      simp only [hookStep] at hstep
      split at hstep
      · first
        | (cases hstep; rfl)
        | (split at hstep
           · cases hstep
             rfl
           · cases hstep)
      · cases hstep
    rw [hstate]
    exact hreq.resolve_left (by simp)
  | restoreReturns restored =>
    simp only [HookAction.Admitted] at ha
    simp only [hookStep, ha] at hstep
    split at hstep
    · cases hstep
      simp [finishReturns, completeUnhook]
    · cases hstep

end Actions

/-! ## Runs -/

theorem Installed.progress {w : GatedHook β ι} (h : Installed w) : Progress w := by
  have hsound := h.sound
  obtain ⟨binding, target, callbackEntry, testingGateEntry, stub, host, backup, prepared,
    hprepare, hinstall⟩ := h.gate
  obtain ⟨-, -, hcan⟩ := preparePublishedHostHook_ok hprepare
  obtain ⟨-, -, hcan', -, -⟩ := installPublishedHostHook_ok hinstall
  exact {
    sound := hsound
    canUnhook := hcan'.trans hcan
    state := Or.inl h.state
    owner := by rw [h.owner]; exact ⟨by decide, by decide⟩
    cpus := fun i => Or.inl (h.outside i)
    pending := fun hu _ => by
      rw [h.state] at hu
      cases hu }

variable [DecidableEq ι]

theorem run_progress {w w' : GatedHook β ι} {as : List (HookAction ι)} (h : Progress w)
    (hadmitted : ∀ a ∈ as, a.Admitted) (hrun : run hookStep w as = some w') : Progress w' :=
  run_invariant_of (fun _ _ _ hp ha hstep => Progress.step hp ha hstep) hadmitted h hrun

theorem run_requested {w w' : GatedHook β ι} {as : List (HookAction ι)} (h : Progress w)
    (hadmitted : ∀ a ∈ as, a.Admitted) (hrun : run hookStep w as = some w')
    (hreq : .removeHook ∈ as ∨ w.hook.state ≠ .installed) : w'.hook.state ≠ .installed := by
  induction as generalizing w with
  | nil =>
    cases hrun
    exact hreq.resolve_left List.not_mem_nil
  | cons a as ih =>
    obtain ⟨u, hstep, hrest⟩ := run_cons_eq_some.mp hrun
    have ha : a.Admitted := hadmitted a List.mem_cons_self
    have hrest' : ∀ b ∈ as, b.Admitted := fun b hb => hadmitted b (List.mem_cons_of_mem a hb)
    refine ih (h.step ha hstep) hrest' hrest ?_
    rcases hreq with hmem | hst
    · rcases List.mem_cons.mp hmem with rfl | hmem
      · exact Or.inr (hookStep_requested h ha hstep (Or.inl rfl))
      · exact Or.inl hmem
    · exact Or.inr (hookStep_requested h ha hstep (Or.inr hst))

/-- In every run without kept pins and with an obliging host, a hook that comes to rest is not left
unhooking, and a requested unhook is complete. -/
theorem no_lost_unhook {w₀ w : GatedHook β ι} (hinit : Installed w₀)
    {as : List (HookAction ι)} (hadmitted : ∀ a ∈ as, a.Admitted)
    (hrun : run hookStep w₀ as = some w) (hquiet : Quiescent w) :
    w.hook.state ≠ .unhooking ∧ (.removeHook ∈ as → w.hook.state = .unhooked) := by
  have hprogress := run_progress hinit.progress hadmitted hrun
  have hsettled : w.hook.state ≠ .unhooking := by
    intro hu
    obtain ⟨i, hi⟩ := hprogress.pending hu (Or.inl hquiet.owner)
    rw [hquiet.cpus i] at hi
    exact hi
  refine ⟨hsettled, fun hmem => ?_⟩
  have hnot := run_requested hinit.progress hadmitted hrun (Or.inl hmem)
  rcases hprogress.state with hi | hu | hd
  · exact absurd hi hnot
  · exact absurd hu hsettled
  · exact hd

/-- The schedule of two CPUs, with the host and the return restoration succeeding. -/
def unhookedSchedule : List (HookAction (Fin 2)) :=
  unhookSchedule ++ [.hostUnhook true, .owner, .owner, .restoreReturns true]

theorem unhookedSchedule_enabled :
    (run hookStep twoCpuHook unhookedSchedule).isSome = true := by
  decide +kernel

/-- The hook of that run comes to rest unhooked: the exiting CPU finished what the request left. -/
theorem no_lost_unhook_two_cpus :
    ((run hookStep twoCpuHook unhookedSchedule).get unhookedSchedule_enabled).hook.state ≠
        .unhooking ∧
      (.removeHook ∈ unhookedSchedule →
        ((run hookStep twoCpuHook unhookedSchedule).get unhookedSchedule_enabled).hook.state =
          .unhooked) := by
  refine no_lost_unhook twoCpuHook_installed ?_ (Option.some_get _).symm ?_
  · simp [unhookedSchedule, unhookSchedule, HookAction.Admitted]
  · exact ⟨by decide +kernel, by decide +kernel, by decide +kernel, by decide +kernel⟩

end DartPlant
