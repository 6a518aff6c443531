import DartPlant.Core.GatedHookCpu

/-! # The invariant of a gated hook

`Standing` says, for each place the lock holder can stand at, how far the hook is taken down: the
gate is open, draining, closed, or bypasses to the restored target, and who still owns the backend.
`hookStep_sound` proves that every action keeps it, together with the counters of
`DartPlant.Core.GatedHookCpu`.

What carries the closing of the gate is the order of the checks: a closed gate counts no pin, so
while it is closed no CPU can reach `BeginInvocation`, and an idle record seen after the closing
stays idle until the gate is put back.
-/

namespace DartPlant
open Census Runs

variable {β ι : Type}

def BackendOwned (w : GatedHook β ι) : Prop :=
  w.published.backendInstalled = true ∧ w.hook.backendInstalled = true

/-- The gate hands out the callback. -/
def OpenGate (w : GatedHook β ι) : Prop :=
  BackendOwned w ∧ ∃ s n, (s = .armed ∨ s = .draining) ∧ GateAt w s n

def DrainingGate (w : GatedHook β ι) : Prop :=
  BackendOwned w ∧ ∃ n, GateAt w .draining n

/-- The gate is closed and nobody holds a pin. -/
def ClosedGate (w : GatedHook β ι) : Prop :=
  BackendOwned w ∧ GateAt w .closed 0#32

/-- The target is physically restored, and no pin of either kind is left. -/
def RestoredGate (w : GatedHook β ι) : Prop :=
  w.published.backendInstalled = false ∧ GateAt w .bypassTarget 0#32 ∧ w.hook.inFlight = 0

/-- How far the hook is taken down at each place of the lock holder. -/
def Standing (w : GatedHook β ι) : Prop :=
  match w.owner with
  | .arm => BackendOwned w ∧ GateAt w .installing 0#32 ∧ w.hook.state = .installed
  | .free | .exitRecheck =>
    (OpenGate w ∧
      (w.hook.state = .installed ∨ w.hook.state = .unhooking ∨ w.hook.state = .failed)) ∨
    (RestoredGate w ∧ w.hook.backendInstalled = false)
  | .unhookDrain gatedDrain =>
    w.hook.state = .unhooking ∧
      ((OpenGate w ∧ gatedDrain = true) ∨
        (RestoredGate w ∧ w.hook.backendInstalled = false ∧ gatedDrain = false))
  | .unhookIdle | .finishDrain =>
    w.hook.state = .unhooking ∧
      (OpenGate w ∨ (RestoredGate w ∧ w.hook.backendInstalled = false))
  | .finishIdle | .finishClose | .finishPublish false =>
    w.hook.state = .unhooking ∧ DrainingGate w
  | .finishRecheck | .finishReopen => w.hook.state = .unhooking ∧ ClosedGate w
  | .uninstall | .uninstallClose | .hostUnhook | .uninstallReopen | .uninstallBypass =>
    w.hook.state = .unhooking ∧ ClosedGate w ∧ w.hook.inFlight = 0
  | .finishPublish true => w.hook.state = .unhooking ∧ RestoredGate w
  | .restoreReturns =>
    w.hook.state = .unhooking ∧ RestoredGate w ∧ w.hook.backendInstalled = false

/-- The invariant: right counters, and a hook that stands where its lock holder does. -/
structure Sound (w : GatedHook β ι) : Prop where
  counts : Counts w
  standing : Standing w

/-! ## CPU actions -/

section Frame
variable {w w' : GatedHook β ι}

theorem BackendOwned.frame (h : BackendOwned w) (hf : CpuFrame w w') : BackendOwned w' :=
  ⟨hf.publishedBackend.trans h.1, hf.hookBackend.trans h.2⟩

theorem GateAt.idle_frame {s : HostPublicationGateState} (h : GateAt w s 0#32)
    (ha : s ≠ .armed) (hd : s ≠ .draining) (hf : CpuFrame w w') : GateAt w' s 0#32 := by
  obtain ⟨m, hm, hidle⟩ := hf.gate s _ h
  rwa [hidle ha hd rfl] at hm

theorem OpenGate.frame (h : OpenGate w) (hf : CpuFrame w w') : OpenGate w' := by
  obtain ⟨hb, s, n, hs, hg⟩ := h
  obtain ⟨m, hm, -⟩ := hf.gate s n hg
  exact ⟨hb.frame hf, s, m, hs, hm⟩

theorem DrainingGate.frame (h : DrainingGate w) (hf : CpuFrame w w') : DrainingGate w' := by
  obtain ⟨hb, n, hg⟩ := h
  obtain ⟨m, hm, -⟩ := hf.gate _ n hg
  exact ⟨hb.frame hf, m, hm⟩

theorem DrainingGate.open (h : DrainingGate w) : OpenGate w :=
  ⟨h.1, .draining, h.2.choose, Or.inr rfl, h.2.choose_spec⟩

theorem ClosedGate.frame (h : ClosedGate w) (hf : CpuFrame w w') : ClosedGate w' :=
  ⟨h.1.frame hf, h.2.idle_frame (by decide) (by decide) hf⟩

theorem GateAt.no_pin {s : HostPublicationGateState} (h : GateAt w s 0#32) (i : ι) :
    ¬ CpuPhase.HoldsEntrant (w.cpu i) :=
  census_eq_zero.mp h.2 i

/-- An idle record behind a gate without pins stays idle. -/
theorem GateAt.idle_inFlight {s : HostPublicationGateState} (h : GateAt w s 0#32)
    (hz : w.hook.inFlight = 0) (hf : CpuFrame w w') : w'.hook.inFlight = 0 :=
  Nat.le_zero.mp (hz ▸ hf.noEntry h.2)

theorem RestoredGate.frame (h : RestoredGate w) (hf : CpuFrame w w') : RestoredGate w' :=
  ⟨hf.publishedBackend.trans h.1, h.2.1.idle_frame (by decide) (by decide) hf,
    h.2.1.idle_inFlight h.2.2 hf⟩

/-- A CPU action moves no hook: it stands where it stood. -/
theorem Standing.frame (h : Standing w) (hf : CpuFrame w w') (ho : w'.owner = w.owner) :
    Standing w' := by
  unfold Standing at h ⊢
  rw [ho]
  cases hw : w.owner with
  | arm =>
    simp only [hw] at h ⊢
    exact ⟨h.1.frame hf, h.2.1.idle_frame (by decide) (by decide) hf, hf.state.trans h.2.2⟩
  | free | exitRecheck =>
    simp only [hw] at h ⊢
    rw [hf.state, hf.hookBackend]
    exact h.imp (fun ho => ⟨ho.1.frame hf, ho.2⟩) (fun hr => ⟨hr.1.frame hf, hr.2⟩)
  | unhookDrain gatedDrain =>
    simp only [hw] at h ⊢
    rw [hf.state, hf.hookBackend]
    exact ⟨h.1, h.2.imp (fun ho => ⟨ho.1.frame hf, ho.2⟩) (fun hr => ⟨hr.1.frame hf, hr.2⟩)⟩
  | unhookIdle | finishDrain =>
    simp only [hw] at h ⊢
    rw [hf.state, hf.hookBackend]
    exact ⟨h.1, h.2.imp (fun ho => ho.frame hf) (fun hr => ⟨hr.1.frame hf, hr.2⟩)⟩
  | finishIdle | finishClose =>
    simp only [hw] at h ⊢
    exact ⟨hf.state.trans h.1, h.2.frame hf⟩
  | finishRecheck | finishReopen =>
    simp only [hw] at h ⊢
    exact ⟨hf.state.trans h.1, h.2.frame hf⟩
  | uninstall | uninstallClose | hostUnhook | uninstallReopen | uninstallBypass =>
    simp only [hw] at h ⊢
    exact ⟨hf.state.trans h.1, h.2.1.frame hf, h.2.1.2.idle_inFlight h.2.2 hf⟩
  | finishPublish restored =>
    simp only [hw] at h ⊢
    cases restored with
    | false => exact ⟨hf.state.trans h.1, h.2.frame hf⟩
    | true => exact ⟨hf.state.trans h.1, h.2.frame hf⟩
  | restoreReturns =>
    simp only [hw] at h ⊢
    exact ⟨hf.state.trans h.1, h.2.1.frame hf, hf.hookBackend.trans h.2.2⟩

/-- A CPU that holds a gate pin is admitted by the record. -/
theorem Standing.admits (h : Standing w) {i : ι} (hi : CpuPhase.HoldsEntrant (w.cpu i)) :
    (w.hook.state = .installed ∨ w.hook.state = .unhooking ∨ w.hook.state = .failed) ∧
      w.hook.backendInstalled = true := by
  have hclosed : ∀ s, GateAt w s 0#32 → False := fun s hg => hg.no_pin i hi
  unfold Standing at h
  cases hw : w.owner with
  | arm =>
    simp only [hw] at h
    exact (hclosed _ h.2.1).elim
  | free | exitRecheck =>
    simp only [hw] at h
    rcases h with ho | hr
    · exact ⟨ho.2, ho.1.1.2⟩
    · exact (hclosed _ hr.1.2.1).elim
  | unhookDrain gatedDrain =>
    simp only [hw] at h
    rcases h.2 with ho | hr
    · exact ⟨Or.inr (Or.inl h.1), ho.1.1.2⟩
    · exact (hclosed _ hr.1.2.1).elim
  | unhookIdle | finishDrain =>
    simp only [hw] at h
    rcases h.2 with ho | hr
    · exact ⟨Or.inr (Or.inl h.1), ho.1.2⟩
    · exact (hclosed _ hr.1.2.1).elim
  | finishIdle | finishClose =>
    simp only [hw] at h
    exact ⟨Or.inr (Or.inl h.1), h.2.1.2⟩
  | finishRecheck | finishReopen =>
    simp only [hw] at h
    exact (hclosed _ h.2.2).elim
  | uninstall | uninstallClose | hostUnhook | uninstallReopen | uninstallBypass =>
    simp only [hw] at h
    exact (hclosed _ h.2.1.2).elim
  | finishPublish restored =>
    simp only [hw] at h
    cases restored with
    | false => exact ⟨Or.inr (Or.inl h.1), h.2.1.2⟩
    | true => exact (hclosed _ h.2.2.1).elim
  | restoreReturns =>
    simp only [hw] at h
    exact (hclosed _ h.2.1.2.1).elim

end Frame

/-! ## The lock holder -/

section Owner
variable {w w' : GatedHook β ι}

theorem GateAt.of_control {s t : HostPublicationGateState} {n : BitVec 32} (h : GateAt w s n)
    (hc : w'.published.gate.control = encodeGateControl t n) (hcpu : w'.cpu = w.cpu) :
    GateAt w' t n :=
  ⟨hc, by rw [hcpu]; exact h.2⟩

/-- The lock holder moves no CPU and counts nobody. -/
theorem Counts.of_owner (h : Counts w) (hcpu : w'.cpu = w.cpu)
    (htracked : w'.published.trackGeneratedEntrants = w.published.trackGeneratedEntrants)
    (hbackup : w'.published.gate.backup = w.published.gate.backup)
    (hmethod : w'.hook.hasMethod = w.hook.hasMethod)
    (hin : w'.hook.inFlight = w.hook.inFlight) (hgate : ∃ s n, GateAt w' s n) : Counts w' where
  tracked := htracked.trans h.tracked
  backed := hbackup ▸ h.backed
  hasMethod := hmethod.trans h.hasMethod
  gate := hgate
  inFlight := by rw [hcpu, hin]; exact h.inFlight
  noUntracked := by rw [hcpu]; exact h.noUntracked

/-- Only the place of the lock holder changes. -/
theorem Counts.move (h : Counts w) (owner : OwnerStep) : Counts { w with owner := owner } :=
  h.of_owner rfl rfl rfl rfl rfl (by obtain ⟨s, n, hg⟩ := h.gate; exact ⟨s, n, hg⟩)

/-- The lock holder sets the gate word and moves on. -/
theorem Counts.setGate (h : Counts w) {s : HostPublicationGateState} {n : BitVec 32}
    (hg : GateAt w s n) (t : HostPublicationGateState) (owner : OwnerStep) :
    Counts { w with published := w.published.setControl t n, owner := owner } :=
  h.of_owner rfl rfl rfl rfl rfl ⟨t, n, hg.of_control rfl rfl⟩

/-- Draining an open gate. -/
theorem OpenGate.beginDrain (h : OpenGate w) :
    ∃ n, GateAt w .draining n ∧ beginDrainPublishedHostHook w.published = w.published ∨
      GateAt w .armed n ∧
        beginDrainPublishedHostHook w.published = w.published.setControl .draining n := by
  obtain ⟨hb, s, n, hs, hg⟩ := h
  refine ⟨n, ?_⟩
  rcases hs with rfl | rfl
  · exact Or.inr ⟨hg, by rw [beginDrainPublishedHostHook_eq hg.1, if_pos ⟨hb.1, rfl⟩]⟩
  · refine Or.inl ⟨hg, ?_⟩
    rw [beginDrainPublishedHostHook_eq hg.1, if_neg]
    rintro ⟨-, hd⟩
    exact absurd hd (by decide)

/-- The drain of an open gate, with the lock holder moving on. -/
theorem OpenGate.drained (h : OpenGate w) (hc : Counts w) (owner : OwnerStep) :
    Counts { w with published := beginDrainPublishedHostHook w.published, owner := owner } ∧
      DrainingGate
        { w with published := beginDrainPublishedHostHook w.published, owner := owner } := by
  obtain ⟨n, ⟨hg, hsame⟩ | ⟨hg, hset⟩⟩ := h.beginDrain
  · rw [hsame]
    exact ⟨hc.move owner, h.1, n, hg⟩
  · rw [hset]
    exact ⟨hc.setGate hg .draining owner, h.1, n, hg.of_control rfl rfl⟩

/-- An attempt to close a draining gate: it closes with no pin left, or nothing happens. -/
theorem DrainingGate.close (h : DrainingGate w) :
    (closePublishedHostHook w.published = (w.published.setControl .closed 0#32, true) ∧
        GateAt w .draining 0#32) ∨
      closePublishedHostHook w.published = (w.published, false) ∧
        census CpuPhase.HoldsEntrant w.cpu ≠ 0 := by
  obtain ⟨hb, n, hg⟩ := h
  have hclose := closePublishedHostHook_eq hg.1
  rw [if_neg (by simp [hb.1]), if_neg (by decide)] at hclose
  by_cases hn : n = 0#32
  · subst hn
    exact Or.inl ⟨by rw [hclose, if_pos ⟨Or.inl rfl, rfl⟩], hg⟩
  · refine Or.inr ⟨by rw [hclose, if_neg fun hc => hn hc.2], ?_⟩
    rw [hg.2]
    intro hz
    exact hn (BitVec.eq_of_toNat_eq (by exact_mod_cast hz))

/-- A closed gate is closed already. -/
theorem ClosedGate.close (h : ClosedGate w) :
    closePublishedHostHook w.published = (w.published, true) := by
  rw [closePublishedHostHook_eq h.2.1, if_neg (by simp [h.1.1]), if_pos rfl]
  rfl

/-- Putting a closed gate back. -/
theorem ClosedGate.reopen (h : ClosedGate w) :
    reopenPublishedHostHookDrain w.published = w.published.setControl .draining 0#32 := by
  rw [reopenPublishedHostHookDrain_eq h.2.1, if_pos ⟨h.1.1, rfl, rfl⟩]

theorem ClosedGate.idle (h : ClosedGate w) :
    publishedHostHookEntrantsIdle w.published = true := by
  rw [publishedHostHookEntrantsIdle_eq h.2.1]
  rfl

/-- The lock holder's own steps keep the invariant. -/
theorem ownerStep_sound (h : Sound w) (hstep : ownerStep w = some w') : Sound w' := by
  obtain ⟨hc, hs⟩ := h
  unfold ownerStep at hstep
  unfold Standing at hs
  cases hw : w.owner with
  | free | hostUnhook | restoreReturns => simp only [hw, reduceCtorEq] at hstep
  | arm =>
    simp only [hw, Option.some.injEq] at hs hstep
    obtain ⟨hb, hg, hst⟩ := hs
    have harm : armPublishedHostHook w.published = w.published.setControl .armed 0#32 := by
      rw [armPublishedHostHook_eq hg.1, if_pos ⟨hb.1, hc.backed⟩]
    subst hstep
    rw [harm]
    refine ⟨hc.setGate hg .armed .free, Or.inl ⟨⟨hb, .armed, 0#32, Or.inl rfl, ?_⟩, Or.inl hst⟩⟩
    exact hg.of_control rfl rfl
  | unhookDrain gatedDrain =>
    simp only [hw, Option.some.injEq] at hs hstep
    subst hstep
    rcases hs with ⟨hst, ⟨ho, rfl⟩ | ⟨hr, hb, rfl⟩⟩
    · obtain ⟨hcounts, hd⟩ := ho.drained hc .unhookIdle
      exact ⟨hcounts, hst, Or.inl hd.open⟩
    · exact ⟨hc.move _, hst, Or.inr ⟨hr, hb⟩⟩
  | unhookIdle =>
    simp only [hw, Option.some.injEq] at hs hstep
    subst hstep
    refine ⟨hc.move _, ?_⟩
    by_cases hz : w.hook.inFlight ≠ 0
    · rw [if_pos hz]
      rcases hs.2 with ho | hr
      · exact Or.inl ⟨ho, Or.inr (Or.inl hs.1)⟩
      · exact Or.inr hr
    · rw [if_neg hz]
      exact hs
  | exitRecheck =>
    simp only [hw, Option.some.injEq] at hs hstep
    subst hstep
    refine ⟨hc.move _, ?_⟩
    by_cases hu : w.hook.state = .unhooking
    · rw [if_pos hu]
      exact ⟨hu, hs.imp And.left id⟩
    · rw [if_neg hu]
      exact hs
  | finishDrain =>
    simp only [hw] at hs hstep
    obtain ⟨hst, hs⟩ := hs
    rcases hs with ho | ⟨hr, hb⟩
    · rw [if_pos ho.1.2] at hstep
      cases hstep
      obtain ⟨hcounts, hd⟩ := ho.drained hc .finishIdle
      exact ⟨hcounts, hst, hd⟩
    · rw [if_neg (by simp [hb])] at hstep
      cases hstep
      exact ⟨hc.move _, hst, hr, hb⟩
  | finishIdle =>
    simp only [hw, Option.some.injEq] at hs hstep
    subst hstep
    refine ⟨hc.move _, ?_⟩
    by_cases hz : w.hook.inFlight ≠ 0
    · rw [if_pos hz]
      exact Or.inl ⟨hs.2.open, Or.inr (Or.inl hs.1)⟩
    · rw [if_neg hz]
      exact hs
  | finishClose =>
    simp only [hw, Option.some.injEq] at hs hstep
    subst hstep
    rcases hs.2.close with ⟨hclose, hg⟩ | ⟨hclose, -⟩
    · rw [hclose]
      exact ⟨hc.setGate hg .closed .finishRecheck, hs.1, hs.2.1, hg.of_control rfl rfl⟩
    · rw [hclose]
      exact ⟨hc.move .free, Or.inl ⟨hs.2.open, Or.inr (Or.inl hs.1)⟩⟩
  | finishRecheck =>
    simp only [hw, Option.some.injEq] at hs hstep
    subst hstep
    refine ⟨hc.move _, ?_⟩
    by_cases hz : w.hook.inFlight ≠ 0
    · rw [if_pos hz]
      exact hs
    · rw [if_neg hz]
      exact ⟨hs.1, hs.2, not_not.mp hz⟩
  | finishReopen =>
    simp only [hw, Option.some.injEq] at hs hstep
    subst hstep
    rw [hs.2.reopen]
    refine ⟨hc.setGate hs.2.2 .draining .free, Or.inl ⟨⟨hs.2.1, .draining, 0#32, Or.inr rfl, ?_⟩,
      Or.inr (Or.inl hs.1)⟩⟩
    exact hs.2.2.of_control rfl rfl
  | uninstall =>
    simp only [hw] at hs hstep
    rw [if_neg (by simp [hs.2.1.1.1]), if_neg (by simp [hs.2.1.idle])] at hstep
    cases hstep
    exact ⟨hc.move _, hs⟩
  | uninstallClose =>
    simp only [hw] at hs
    simp only [hw, hs.2.1.close, Option.some.injEq, Bool.true_eq_false, if_false] at hstep
    subst hstep
    refine ⟨hc.move _, ?_⟩
    by_cases hcan : hostCanUnhook w.published = true
    · rw [if_pos hcan]
      exact hs
    · rw [if_neg hcan]
      exact hs
  | uninstallReopen =>
    simp only [hw, Option.some.injEq] at hs hstep
    subst hstep
    rw [hs.2.1.reopen]
    refine ⟨hc.setGate hs.2.1.2 .draining (.finishPublish false), hs.1, hs.2.1.1, 0#32, ?_⟩
    exact hs.2.1.2.of_control rfl rfl
  | uninstallBypass =>
    simp only [hw, Option.some.injEq] at hs hstep
    subst hstep
    have hg := storeGateState_control hs.2.1.2.1 .bypassTarget
    have hat : GateAt { w with
        published := { w.published with
          backendInstalled := false
          gate := storeGateState w.published.gate .bypassTarget }
        owner := .finishPublish true } .bypassTarget 0#32 := hs.2.1.2.of_control hg rfl
    exact ⟨hc.of_owner rfl rfl rfl rfl rfl ⟨_, _, hat⟩, hs.1, rfl, hat, hs.2.2⟩
  | finishPublish restored =>
    cases restored with
    | false =>
      simp only [hw, Bool.false_eq_true, if_false, Option.some.injEq] at hs hstep
      subst hstep
      obtain ⟨hst, hb, n, hg⟩ := hs
      refine ⟨hc.of_owner rfl rfl rfl rfl rfl ⟨_, n, hg.of_control hg.1 rfl⟩, Or.inl ⟨⟨⟨hb.1, hb.1⟩,
        .draining, n, Or.inr rfl, hg.of_control hg.1 rfl⟩, Or.inr (Or.inr rfl)⟩⟩
    | true =>
      simp only [hw, if_true, Option.some.injEq] at hs hstep
      subst hstep
      obtain ⟨hst, hp, hg, hz⟩ := hs
      exact ⟨hc.of_owner rfl rfl rfl rfl rfl ⟨_, _, hg.of_control hg.1 rfl⟩, hst,
        ⟨hp, hg.of_control hg.1 rfl, hz⟩, hp⟩

/-- The two ways an unhook request can go. -/
theorem startUnhook_cases (gated : Bool) (hook : HookRecord β) :
    (∃ result, startUnhook gated hook = .done result ∧
      (hook.state = .unhooked ∨ hook.state = .retired ∨ hook.state = .unhooking)) ∨
    startUnhook gated hook =
      .drain { hook with state := .unhooking, active := false, listeners := [] }
        (gated && hook.backendInstalled) := by
  unfold startUnhook
  by_cases hu : hook.state = .unhooked
  · exact Or.inl ⟨_, if_pos hu, Or.inl hu⟩
  · rw [if_neg hu]
    by_cases hr : hook.state = .retired
    · exact Or.inl ⟨_, if_pos hr, Or.inr (Or.inl hr)⟩
    · rw [if_neg hr]
      by_cases hk : hook.state = .unhooking
      · exact Or.inl ⟨_, if_pos hk, Or.inr (Or.inr hk)⟩
      · exact Or.inr (if_neg hk)

theorem removeHook_sound (h : Sound w) (ho : w.owner = .free) {hook : HookRecord β}
    {gatedDrain : Bool} (hstart : startUnhook true w.hook = .drain hook gatedDrain) :
    Sound { w with hook := hook, owner := .unhookDrain gatedDrain } := by
  obtain ⟨hc, hs⟩ := h
  rcases startUnhook_cases true w.hook with ⟨result, hdone, -⟩ | hdrain
  · rw [hdone] at hstart
    cases hstart
  · rw [hdrain] at hstart
    cases hstart
    obtain ⟨s, n, hg⟩ := hc.gate
    refine ⟨hc.of_owner rfl rfl rfl rfl rfl ⟨s, n, hg⟩, rfl, ?_⟩
    simp only [Standing, ho] at hs
    rcases hs with ⟨hopen, -⟩ | ⟨hr, hb⟩
    · exact Or.inl ⟨hopen, by simp [hopen.1.2]⟩
    · exact Or.inr ⟨hr, hb, by simp [hb]⟩

theorem restoreReturns_sound (h : Sound w) (ho : w.owner = .restoreReturns)
    (outcome : UnhookOutcome) :
    Sound { w with hook := (finishReturns w.hook outcome).1, owner := .free } := by
  obtain ⟨hc, hs⟩ := h
  simp only [Standing, ho] at hs
  obtain ⟨-, ⟨hp, hg, hz⟩, hb⟩ := hs
  have hfinish : (finishReturns w.hook outcome).1.hasMethod = w.hook.hasMethod ∧
      (finishReturns w.hook outcome).1.inFlight = w.hook.inFlight ∧
      (finishReturns w.hook outcome).1.backendInstalled = w.hook.backendInstalled := by
    unfold finishReturns
    split <;> exact ⟨rfl, rfl, rfl⟩
  obtain ⟨hmethod, hin, hback⟩ := hfinish
  exact ⟨hc.of_owner rfl rfl rfl hmethod hin ⟨_, _, hg⟩,
    Or.inr ⟨⟨hp, hg, hin.trans hz⟩, hback.trans hb⟩⟩

end Owner

/-! ## Every action -/

section Step
variable [DecidableEq ι] {w w' : GatedHook β ι}

/-- A CPU moves between phases with the same pin and the same count. -/
theorem setCpu_spec (h : Counts w) {i : ι} (phase : CpuPhase)
    (hpin : CpuPhase.HoldsEntrant phase ↔ CpuPhase.HoldsEntrant (w.cpu i))
    (hcount : CpuPhase.CountedInFlight phase ↔ CpuPhase.CountedInFlight (w.cpu i))
    (hun : phase ≠ .untracked) : Counts (w.setCpu i phase) ∧ CpuFrame w (w.setCpu i phase) := by
  have hframe : CpuFrame w (w.setCpu i phase) := CpuFrame.setCpu hpin
  have hin : census CpuPhase.CountedInFlight (w.setCpu i phase).cpu = (w.hook.inFlight : ℕ∞) :=
    (census_setCpu_same hcount).trans h.inFlight
  exact ⟨h.of_frame hframe hin (setCpu_ne_untracked h.noUntracked hun), hframe⟩

/-- What the actions of the CPUs have in common. -/
theorem cpuAction_spec {a : HookAction ι} (h : Sound w) (hstep : hookStep w a = some w')
    (ha : a.IsCpu) : Counts w' ∧ CpuFrame w w' ∧ w'.owner = w.owner := by
  cases a with
  | owner | removeHook | hostUnhook restored | restoreReturns restored | lockToFinish i =>
    exact ha.elim
  | acquire i =>
    simp only [hookStep] at hstep
    split at hstep
    · next hi => exact acquireStep_spec h.counts hi hstep
    · cases hstep
  | retain i =>
    simp only [hookStep] at hstep
    split at hstep
    · next hi =>
      cases hstep
      obtain ⟨hc, hf⟩ := setCpu_spec h.counts (i := i) .retained (by rw [hi]; exact Iff.rfl)
        (by rw [hi]; exact Iff.rfl) (by decide)
      exact ⟨hc, hf, rfl⟩
    · cases hstep
  | beginInvocation i =>
    simp only [hookStep] at hstep
    split at hstep
    · next hi =>
      cases hstep
      have hin : CpuPhase.HoldsEntrant (w.cpu i) := by
        rw [hi]
        trivial
      obtain ⟨hst, hb⟩ := h.standing.admits hin
      obtain ⟨hc, hf, ho, -⟩ := beginStep_spec h.counts hi hst hb
      exact ⟨hc, hf, ho⟩
    · cases hstep
  | releaseEntrant i =>
    simp only [hookStep] at hstep
    split at hstep
    · next hi =>
      cases hstep
      have hin : CpuPhase.HoldsEntrant (w.cpu i) := by
        rw [hi]
        trivial
      have hframe := releaseEntrant_spec h.counts .running hin id
      refine ⟨h.counts.of_frame hframe ?_ ?_, hframe, rfl⟩
      · refine (census_update_of_iff ?_).trans h.counts.inFlight
        rw [hi]
        exact Iff.rfl
      · exact setCpu_ne_untracked h.counts.noUntracked (by decide)
    · cases hstep
  | exit i =>
    simp only [hookStep] at hstep
    split at hstep
    · next hi =>
      cases hstep
      refine exitStep_spec h.counts ?_ ?_
      · rw [hi]
        trivial
      · rw [hi]
        exact ⟨False.elim, fun hf => absurd hf (by decide)⟩
    · cases hstep
  | abandon i =>
    simp only [hookStep] at hstep
    split at hstep
    · next hi =>
      cases hstep
      refine exitStep_spec h.counts ?_ ?_
      · rw [hi]
        trivial
      · rw [hi]
        exact ⟨fun _ => rfl, fun _ => trivial⟩
    · cases hstep

/-- The exiting CPU becomes the lock holder. -/
theorem lockToFinish_sound {i : ι} (h : Sound w) (hstep : hookStep w (.lockToFinish i) = some w') :
    Sound w' := by
  simp only [hookStep] at hstep
  split at hstep
  · next pinned hi =>
    split at hstep
    · next ho =>
      cases hstep
      have hlocked : Standing { w with owner := .exitRecheck } := by
        have hs := h.standing
        simp only [Standing, ho] at hs
        exact hs
      obtain ⟨hc, hf⟩ := setCpu_spec (h.counts.move .exitRecheck) (i := i)
        (if pinned then .retained else .outside) (by rw [hi]; cases pinned <;> exact Iff.rfl)
        (by rw [hi]; cases pinned <;> exact Iff.rfl) (by cases pinned <;> decide)
      exact ⟨hc, hlocked.frame hf rfl⟩
    · cases hstep
  · cases hstep

/-- Every action of the system keeps the invariant. -/
theorem hookStep_sound {a : HookAction ι} (h : Sound w) (hstep : hookStep w a = some w') :
    Sound w' := by
  cases a with
  | owner => exact ownerStep_sound h hstep
  | removeHook =>
    simp only [hookStep] at hstep
    split at hstep
    · next ho =>
      split at hstep
      · cases hstep
        exact h
      · next hook gatedDrain hstart =>
        cases hstep
        exact removeHook_sound h ho hstart
    · cases hstep
  | hostUnhook restored =>
    simp only [hookStep] at hstep
    split at hstep
    · next ho =>
      cases hstep
      have hs := h.standing
      simp only [Standing, ho] at hs
      refine ⟨h.counts.move _, ?_⟩
      cases restored with
      | false => exact hs
      | true => exact hs
    · cases hstep
  | restoreReturns restored =>
    simp only [hookStep] at hstep
    split at hstep
    · next ho =>
      cases hstep
      exact restoreReturns_sound h ho _
    · cases hstep
  | lockToFinish i => exact lockToFinish_sound h hstep
  | acquire i | retain i | beginInvocation i | releaseEntrant i | exit i | abandon i =>
    obtain ⟨hc, hf, ho⟩ := cpuAction_spec h hstep trivial
    exact ⟨hc, h.standing.frame hf ho⟩

end Step

/-- A freshly installed hook satisfies the invariant. -/
theorem Installed.sound {w : GatedHook β ι} (h : Installed w) : Sound w := by
  obtain ⟨binding, target, callbackEntry, testingGateEntry, stub, host, backup, prepared,
    hprepare, hinstall⟩ := h.gate
  obtain ⟨hcontrol, htrack, -⟩ := preparePublishedHostHook_ok hprepare
  obtain ⟨hsame, htrack', -, hb, hbackup⟩ := installPublishedHostHook_ok hinstall
  have hg : GateAt w .installing 0#32 := by
    refine ⟨hsame.trans hcontrol, census_eq_zero.mpr fun i => ?_⟩
    rw [h.outside i]
    exact id
  have hcounts : Counts w := {
    tracked := htrack'.trans htrack
    backed := hbackup
    hasMethod := h.hasMethod
    gate := ⟨_, _, hg⟩
    inFlight := by
      rw [h.idle]
      refine census_eq_zero.mpr fun i => ?_
      rw [h.outside i]
      exact id
    noUntracked := fun i => by
      rw [h.outside i]
      decide }
  refine ⟨hcounts, ?_⟩
  simp only [Standing, h.owner]
  exact ⟨⟨hb, h.backendInstalled⟩, hg, h.state⟩

/-- The invariant holds along every run of an installed hook. -/
theorem run_sound [DecidableEq ι] {w₀ w : GatedHook β ι} (hinit : Installed w₀)
    {as : List (HookAction ι)} (hrun : run hookStep w₀ as = some w) : Sound w :=
  run_invariant (fun _ _ _ hs hstep => hookStep_sound hs hstep) hinit.sound hrun

end DartPlant
