import DartPlant.Core.GatedHook
import DartPlant.Host.GateLaws
import DartPlant.Lib.Census

/-! # What a CPU can do to a gated hook

The two counters of a gated hook count CPUs: the high half of the gate word those that hold a gate
pin, `in_flight` those the record counts (`Counts`).  This module says once what a CPU action does:
it keeps both counters right, and apart from them it changes nothing but its own phase
(`CpuFrame`).  In a gate state that hands out no callback a CPU can neither pin the gate nor, when
nobody holds a pin, enter the record.
-/

namespace DartPlant
open Census CpuPhase

variable {β ι : Type}

/-- The gate word reads as this state and count, and the count is the number of gate pins. -/
def GateAt (w : GatedHook β ι) (s : HostPublicationGateState) (n : BitVec 32) : Prop :=
  w.published.gate.control = encodeGateControl s n ∧
    census HoldsEntrant w.cpu = (n.toNat : ℕ∞)

/-- The counters are right and the hook is one that was installed as a tracked real-Dart entry. -/
structure Counts (w : GatedHook β ι) : Prop where
  tracked : w.published.trackGeneratedEntrants = true
  backed : w.published.gate.backup ≠ nullptr
  hasMethod : w.hook.hasMethod = true
  gate : ∃ s n, GateAt w s n
  inFlight : census CountedInFlight w.cpu = (w.hook.inFlight : ℕ∞)
  noUntracked : ∀ i, w.cpu i ≠ .untracked

/-- What every CPU action leaves alone. -/
structure CpuFrame (w w' : GatedHook β ι) : Prop where
  state : w'.hook.state = w.hook.state
  hookBackend : w'.hook.backendInstalled = w.hook.backendInstalled
  publishedBackend : w'.published.backendInstalled = w.published.backendInstalled
  tracked : w'.published.trackGeneratedEntrants = w.published.trackGeneratedEntrants
  backup : w'.published.gate.backup = w.published.gate.backup
  binding : w'.published.binding = w.published.binding
  hasMethod : w'.hook.hasMethod = w.hook.hasMethod
  /-- The gate keeps its state, and an idle gate that hands out no callback stays idle. -/
  gate : ∀ s n, GateAt w s n → ∃ m, GateAt w' s m ∧ (s ≠ .armed → s ≠ .draining → n = 0 → m = 0)
  /-- Without a pin to hand over, nobody enters the record. -/
  noEntry : census HoldsEntrant w.cpu = 0 → w'.hook.inFlight ≤ w.hook.inFlight

theorem Counts.of_frame {w w' : GatedHook β ι} (h : Counts w) (hf : CpuFrame w w')
    (hin : census CountedInFlight w'.cpu = (w'.hook.inFlight : ℕ∞))
    (hun : ∀ i, w'.cpu i ≠ .untracked) : Counts w' := by
  obtain ⟨s, n, hg⟩ := h.gate
  obtain ⟨m, hm, -⟩ := hf.gate s n hg
  exact {
    tracked := hf.tracked.trans h.tracked
    backed := hf.backup ▸ h.backed
    hasMethod := hf.hasMethod.trans h.hasMethod
    gate := ⟨s, m, hm⟩
    inFlight := hin
    noUntracked := hun }

theorem CpuFrame.refl (w : GatedHook β ι) : CpuFrame w w where
  state := rfl
  hookBackend := rfl
  publishedBackend := rfl
  tracked := rfl
  backup := rfl
  binding := rfl
  hasMethod := rfl
  gate := fun _ n hg => ⟨n, hg, fun _ _ hn => hn⟩
  noEntry := fun _ => Nat.le_refl _

variable [DecidableEq ι] {w w' : GatedHook β ι} {i : ι}

theorem setCpu_ne_untracked (h : ∀ j, w.cpu j ≠ .untracked) {phase : CpuPhase}
    (hp : phase ≠ .untracked) : ∀ j, (w.setCpu i phase).cpu j ≠ .untracked := by
  intro j
  by_cases hj : j = i
  · subst hj
    simpa only [GatedHook.setCpu, Function.update_self] using hp
  · simpa only [GatedHook.setCpu, Function.update_of_ne hj] using h j

/-- Moving a CPU between phases that hold the same pins. -/
theorem census_setCpu_same {P : CpuPhase → Prop} {phase : CpuPhase} (h : P phase ↔ P (w.cpu i)) :
    census P (w.setCpu i phase).cpu = census P w.cpu :=
  census_update_of_iff h

/-- A move that changes neither a pin nor a counter. -/
theorem CpuFrame.setCpu {phase : CpuPhase}
    (hpin : HoldsEntrant phase ↔ HoldsEntrant (w.cpu i)) :
    CpuFrame w (w.setCpu i phase) where
  state := rfl
  hookBackend := rfl
  publishedBackend := rfl
  tracked := rfl
  backup := rfl
  binding := rfl
  hasMethod := rfl
  gate := fun _ n hg => ⟨n, ⟨hg.1, (census_setCpu_same hpin).trans hg.2⟩, fun _ _ hn => hn⟩
  noEntry := fun _ => Nat.le_refl _

/-! ## The gate -/

/-- An entrant is handed the callback with a pin, passes the hook by, or tries again. -/
theorem acquireStep_cases (h : Counts w) (hstep : acquireStep w i = some w') :
    w' = w ∨ ∃ s n, GateAt w s n ∧ (s = .armed ∨ s = .draining) ∧ n ≠ 0xffffffff#32 ∧
      w' = { w with published := w.published.setControl s (n + 1#32) }.setCpu i .handed := by
  obtain ⟨s, n, hg⟩ := h.gate
  have hroute := acquirePublishedHostHookRoute_eq hg.1
  have ht : ¬ w.published.trackGeneratedEntrants = false := by
    simp only [h.tracked, Bool.true_eq_false, not_false_eq_true]
  unfold acquireStep at hstep
  rw [hroute] at hstep
  cases s with
  | installing | closed => simp only [reduceCtorEq] at hstep
  | bypassTarget | bypassBackup | failed =>
    exact Or.inl (Option.some.inj hstep).symm
  | armed | draining =>
    dsimp only at hstep
    rw [if_neg ht] at hstep
    by_cases hn : n = 0xffffffff#32
    · rw [if_pos hn] at hstep
      exact Or.inl (Option.some.inj hstep).symm
    · rw [if_neg hn] at hstep
      refine Or.inr ⟨_, n, hg, ?_, hn, (Option.some.inj hstep).symm⟩
      first | exact Or.inl rfl | exact Or.inr rfl

theorem toNat_add_one {n : BitVec 32} (h : n ≠ 0xffffffff#32) : (n + 1#32).toNat = n.toNat + 1 := by
  have hn := n.isLt
  have hmax : n.toNat ≠ 0xffffffff := fun he => h (BitVec.eq_of_toNat_eq he)
  rw [BitVec.toNat_add, BitVec.toNat_ofNat]
  omega

theorem toNat_sub_one {n : BitVec 32} (h : n.toNat ≠ 0) : (n - 1#32).toNat = n.toNat - 1 := by
  have hn := n.isLt
  rw [BitVec.toNat_sub, BitVec.toNat_ofNat]
  omega

theorem acquireStep_spec (h : Counts w) (hi : w.cpu i = .outside)
    (hstep : acquireStep w i = some w') : Counts w' ∧ CpuFrame w w' ∧ w'.owner = w.owner := by
  rcases acquireStep_cases h hstep with rfl | ⟨s, n, hg, hs, hn, rfl⟩
  · exact ⟨h, CpuFrame.refl _, rfl⟩
  · have hout : ¬ HoldsEntrant (w.cpu i) := by
      rw [hi]
      exact id
    have hgate : GateAt ({ w with published := w.published.setControl s (n + 1#32) }.setCpu i
        .handed) s (n + 1#32) := by
      refine ⟨rfl, ?_⟩
      rw [toNat_add_one hn]
      exact census_enter hout trivial hg.2
    have hframe : CpuFrame w ({ w with published := w.published.setControl s (n + 1#32) }.setCpu i
        .handed) := {
      state := rfl
      hookBackend := rfl
      publishedBackend := rfl
      tracked := rfl
      backup := rfl
      binding := rfl
      hasMethod := rfl
      gate := by
        intro t m hm
        obtain ⟨rfl, rfl⟩ := encodeGateControl_inj.mp (hm.1.symm.trans hg.1)
        exact ⟨_, hgate, fun ha hd => absurd hs (not_or_intro ha hd)⟩
      noEntry := fun _ => Nat.le_refl _ }
    refine ⟨h.of_frame hframe ?_ ?_, hframe, rfl⟩
    · refine (census_update_of_iff ?_).trans h.inFlight
      rw [hi]
      exact Iff.rfl
    · exact setCpu_ne_untracked h.noUntracked (by decide)

/-- Giving a gate pin back: the count falls with the CPU's move. -/
theorem releaseEntrant_spec (h : Counts w) (phase : CpuPhase)
    (hin : HoldsEntrant (w.cpu i)) (hout : ¬ HoldsEntrant phase) :
    CpuFrame w
      ({ w with published := releasePublishedHostHookEntrant w.published }.setCpu i phase) := by
  obtain ⟨s, n, hg⟩ := h.gate
  have hn : n.toNat ≠ 0 := census_pos hin hg.2
  have hrelease : releasePublishedHostHookEntrant w.published =
      w.published.setControl s (n - 1#32) := by
    rw [releasePublishedHostHookEntrant_eq hg.1, if_pos]
    exact ⟨h.tracked, fun hz => hn (by rw [hz]; rfl)⟩
  rw [hrelease]
  exact {
    state := rfl
    hookBackend := rfl
    publishedBackend := rfl
    tracked := rfl
    backup := rfl
    binding := rfl
    hasMethod := rfl
    gate := by
      intro t m hm
      obtain ⟨rfl, rfl⟩ := encodeGateControl_inj.mp (hm.1.symm.trans hg.1)
      refine ⟨m - 1#32, ⟨rfl, ?_⟩, fun _ _ hz => absurd (by rw [hz]; rfl) hn⟩
      rw [toNat_sub_one hn]
      exact census_leave hin hout hg.2
    noEntry := fun _ => Nat.le_refl _ }

/-! ## The record -/

/-- The record's pin is refused only in states that an installed gate never shows a pinned CPU. -/
theorem admitInvocation_eq {hook : HookRecord β} (hm : hook.hasMethod = true)
    (hs : hook.state = .installed ∨ hook.state = .unhooking ∨ hook.state = .failed)
    (hb : hook.backendInstalled = true) :
    admitInvocation true hook = some { hook with inFlight := hook.inFlight + 1 } := by
  unfold admitInvocation
  rcases hs with hs | hs | hs <;> simp [hm, hs, hb]

theorem beginStep_spec (h : Counts w) (hi : w.cpu i = .handed)
    (hs : w.hook.state = .installed ∨ w.hook.state = .unhooking ∨ w.hook.state = .failed)
    (hb : w.hook.backendInstalled = true) :
    Counts (beginStep w i) ∧ CpuFrame w (beginStep w i) ∧ (beginStep w i).owner = w.owner ∧
      (beginStep w i).cpu = Function.update w.cpu i .begun := by
  have hbegin : beginStep w i =
      { w with hook := { w.hook with inFlight := w.hook.inFlight + 1 } }.setCpu i .begun := by
    unfold beginStep
    rw [admitInvocation_eq h.hasMethod hs hb]
  have hpin : HoldsEntrant .begun ↔ HoldsEntrant (w.cpu i) := by
    rw [hi]
    exact Iff.rfl
  have hframe : CpuFrame w (beginStep w i) := by
    rw [hbegin]
    exact {
      state := rfl
      hookBackend := rfl
      publishedBackend := rfl
      tracked := rfl
      backup := rfl
      binding := rfl
      hasMethod := rfl
      gate := fun _ n hg => ⟨n, ⟨hg.1, (census_update_of_iff hpin).trans hg.2⟩, fun _ _ hn => hn⟩
      noEntry := fun hz => absurd hz (census_ne_zero (hpin.mp trivial)) }
  refine ⟨h.of_frame hframe ?_ ?_, hframe, ?_, ?_⟩
  · rw [hbegin]
    refine census_enter ?_ trivial h.inFlight
    rw [hi]
    exact id
  · rw [hbegin]
    exact setCpu_ne_untracked h.noUntracked (by decide)
  · rw [hbegin]
    rfl
  · rw [hbegin]
    rfl

/-- Where the critical section of `InvocationExited` sends its CPU. -/
def exitPhase (w : GatedHook β ι) (pinned : Bool) : CpuPhase :=
  if w.hook.inFlight - 1 = 0 ∧ w.hook.state = .unhooking then .finishing pinned
  else if pinned then .retained else .outside

omit [DecidableEq ι] in
theorem exitPhase_pinned (w : GatedHook β ι) (pinned : Bool) :
    HoldsEntrant (exitPhase w pinned) ↔ pinned = true := by
  unfold exitPhase
  cases pinned <;> split <;> simp [HoldsEntrant]

omit [DecidableEq ι] in
theorem exitPhase_notCounted (w : GatedHook β ι) (pinned : Bool) :
    ¬ CountedInFlight (exitPhase w pinned) := by
  unfold exitPhase
  cases pinned <;> split <;> simp [CountedInFlight]

omit [DecidableEq ι] in
theorem exitPhase_ne_untracked (w : GatedHook β ι) (pinned : Bool) :
    exitPhase w pinned ≠ .untracked := by
  unfold exitPhase
  cases pinned <;> split <;> simp

theorem exitStep_eq (w : GatedHook β ι) (i : ι) (pinned : Bool) :
    exitStep w i pinned =
      { w with hook := { w.hook with inFlight := w.hook.inFlight - 1 } }.setCpu i
        (exitPhase w pinned) := by
  unfold exitStep exitPhase invocationExited
  simp only [decide_eq_true_eq]

theorem exitStep_spec (h : Counts w) {pinned : Bool} (hi : CountedInFlight (w.cpu i))
    (hp : HoldsEntrant (w.cpu i) ↔ pinned = true) :
    Counts (exitStep w i pinned) ∧ CpuFrame w (exitStep w i pinned) ∧
      (exitStep w i pinned).owner = w.owner := by
  have hpin : HoldsEntrant (exitPhase w pinned) ↔ HoldsEntrant (w.cpu i) :=
    (exitPhase_pinned w pinned).trans hp.symm
  have hframe : CpuFrame w (exitStep w i pinned) := by
    rw [exitStep_eq]
    exact {
      state := rfl
      hookBackend := rfl
      publishedBackend := rfl
      tracked := rfl
      backup := rfl
      binding := rfl
      hasMethod := rfl
      gate := fun _ n hg => ⟨n, ⟨hg.1, (census_update_of_iff hpin).trans hg.2⟩, fun _ _ hn => hn⟩
      noEntry := fun _ => Nat.sub_le _ _ }
  refine ⟨h.of_frame hframe ?_ ?_, hframe, ?_⟩
  · rw [exitStep_eq]
    exact census_leave hi (exitPhase_notCounted w pinned) h.inFlight
  · rw [exitStep_eq]
    exact setCpu_ne_untracked h.noUntracked (exitPhase_ne_untracked w pinned)
  · rw [exitStep_eq]
    rfl

end DartPlant
