import DartPlant.Core.Listeners
import DartPlant.Lib.Runs

/-! # Listeners under concurrent adds and removes

`dartplant_remove_listener` decides under `hook->mutex` that the hook has lost its last listener and
acts on it under `State().mutex`, which it takes only afterwards.  Here every critical section is
one operation, so anything can happen between the two, and `live` is the set of listeners the claim
is about: added with OK, and neither removed by their owner nor invalidated since.

An add that falls between the two sections is accepted, since the record is still installed, and
`UnhookRecordLocked` then drops its listener with the rest: it does not look at the list again.
`no_lost_listener_iff` shows that this is the only way to lose a listener.  The invalidations decide
and act under one hold of `State().mutex`, so an add cannot come between there.
-/

namespace DartPlant
open Runs List

variable {β : Type}

/-- One installed hook, the removals and exits on their way from `hook->mutex` to `State().mutex`,
and the listeners that must not be lost. -/
structure ListenerWorld (β : Type) where
  hook : HookRecord β
  published : Option PublishedHostHook
  removing : Nat
  finishing : Nat
  live : List Nat

/-- The operations, one critical section each. -/
inductive ListenerOp (β : Type) where
  | add (request : AddRequest β)
  | erase (id : Nat)
  | removeHook (outcome : UnhookOutcome)
  | invalidate (invalidation : Invalidation β) (outcome : UnhookOutcome)
  | acquire
  | release
  | enter
  | exit
  | finish (outcome : UnhookOutcome)

/-- The world after one operation.  `removeHook` and `finish` are the second halves of a removal
and of an exit, and do nothing when none is under way. -/
def applyListenerOp (w : ListenerWorld β) : ListenerOp β → ListenerWorld β
  | .add request =>
    match addCallbackListenerForMethod w.hook request with
    | (hook, .ok id) => { w with hook := hook, live := id :: w.live }
    | (hook, .error _) => { w with hook := hook }
  | .erase id =>
    let (hook, removeHook) := eraseListener w.hook id
    { w with
      hook := hook
      live := w.live.filter (fun other => other ≠ id)
      removing := if removeHook then w.removing + 1 else w.removing }
  | .removeHook outcome =>
    if w.removing = 0 then w
    else
      let (hook, published, _) := unhookRecordLocked w.hook w.published outcome
      { w with hook := hook, published := published, removing := w.removing - 1 }
  | .invalidate invalidation outcome =>
    let (hook, published, _) := invalidateHook w.hook w.published invalidation outcome
    { w with
      hook := hook
      published := published
      live := w.live.filter fun id =>
        !w.hook.listeners.any fun l => decide (l.id = id) && invalidation.stale l.binding }
  | .acquire =>
    { w with published := w.published.map fun gate =>
        ((acquirePublishedHostHookRoute gate).map Prod.fst).getD gate }
  | .release => { w with published := w.published.map releasePublishedHostHookEntrant }
  | .enter =>
    match admitInvocation w.published.isSome w.hook with
    | none => w
    | some hook => { w with hook := hook }
  | .exit =>
    if w.hook.inFlight = 0 then w
    else
      let (hook, finishUnhook) := invocationExited w.hook
      { w with
        hook := hook
        finishing := if finishUnhook then w.finishing + 1 else w.finishing }
  | .finish outcome =>
    if w.finishing = 0 then w
    else if w.hook.state ≠ .unhooking then { w with finishing := w.finishing - 1 }
    else
      let (hook, published, _) := finishUnhookLocked w.hook w.published outcome
      { w with hook := hook, published := published, finishing := w.finishing - 1 }

/-- Every live listener is active and in its hook's list, and the hook is installed. -/
def NoLostListener (w : ListenerWorld β) : Prop :=
  ∀ id ∈ w.live, (∃ l ∈ w.hook.listeners, l.id = id ∧ l.active = true) ∧
    w.hook.state = .installed

/-- A removal that takes an installed hook down finds its list still empty. -/
def RemovesEmptyHook (w : ListenerWorld β) (op : ListenerOp β) : Prop :=
  match op with
  | .removeHook _ => w.removing ≠ 0 → w.hook.state = .installed → w.hook.listeners = []
  | _ => True

/-- An installed callback hook as its installer leaves it: active, with active and differently
numbered listeners. -/
structure Listening (hook : HookRecord β) : Prop where
  state : hook.state = .installed
  active : hook.active = true
  listeners : ∀ l ∈ hook.listeners, l.active = true ∧ l.id < hook.nextListenerId
  distinct : (hook.listeners.map ListenerRecord.id).Nodup

/-- The world in which the hook was just installed. -/
def startListening (hook : HookRecord β) (published : Option PublishedHostHook) :
    ListenerWorld β where
  hook := hook
  published := published
  removing := 0
  finishing := 0
  live := hook.listeners.map ListenerRecord.id

/-- The invariant: an installed hook whose listeners are the live ones, or a hook on its way down
and nothing live. -/
def Kept (w : ListenerWorld β) : Prop :=
  (Listening w.hook ∧ ∀ id, id ∈ w.live ↔ ∃ l ∈ w.hook.listeners, l.id = id) ∨
    (w.hook.state ≠ .installed ∧ w.live = [])

/-! ## The invariant -/

section Invariant
variable {w : ListenerWorld β}

theorem Kept.noLostListener (h : Kept w) : NoLostListener w := by
  intro id hid
  rcases h with ⟨hl, hlive⟩ | ⟨-, hnone⟩
  · obtain ⟨l, hmem, hl'⟩ := (hlive id).mp hid
    exact ⟨⟨l, hmem, hl', (hl.listeners l hmem).1⟩, hl.state⟩
  · rw [hnone] at hid
    exact absurd hid not_mem_nil

/-- The hook's own fields decide the invariant. -/
theorem Kept.of_hook {w' : ListenerWorld β} (h : Kept w) (hst : w'.hook.state = w.hook.state)
    (hac : w'.hook.active = w.hook.active) (hli : w'.hook.listeners = w.hook.listeners)
    (hid : w'.hook.nextListenerId = w.hook.nextListenerId) (hlive : w'.live = w.live) :
    Kept w' := by
  rcases h with ⟨hl, hl'⟩ | ⟨hn, hnone⟩
  · left
    refine ⟨⟨hst.trans hl.state, hac.trans hl.active, ?_, ?_⟩, ?_⟩
    · rw [hli, hid]
      exact hl.listeners
    · rw [hli]
      exact hl.distinct
    · rw [hlive, hli]
      exact hl'
  · exact Or.inr ⟨by rw [hst]; exact hn, hlive.trans hnone⟩

/-- An accepted listener joins the list and the live ones. -/
theorem Kept.add (h : Kept w) (request : AddRequest β) :
    Kept (applyListenerOp w (.add request)) := by
  cases hadd : addCallbackListenerForMethod w.hook request with
  | mk hook result =>
    cases result with
    | error failure =>
      have hsame := addCallbackListenerForMethod_error hadd
      simp only [applyListenerOp, hadd, hsame]
      exact h
    | ok id =>
      simp only [applyListenerOp, hadd]
      obtain ⟨hst, -, rfl, hst', hac', hnext, hperm⟩ := addCallbackListenerForMethod_ok hadd
      rcases h with ⟨hl, hlive⟩ | ⟨hn, -⟩
      · left
        have hmem : ∀ l, l ∈ hook.listeners ↔
            l = (makeListener w.hook request).2 ∨ l ∈ w.hook.listeners := fun l =>
          hperm.mem_iff.trans mem_cons
        refine ⟨⟨hst', hac', ?_, ?_⟩, ?_⟩
        · intro l hmem'
          rw [hnext]
          rcases (hmem l).mp hmem' with rfl | hold
          · exact ⟨rfl, Nat.lt_succ_self _⟩
          · exact ⟨(hl.listeners l hold).1, Nat.lt_succ_of_lt (hl.listeners l hold).2⟩
        · rw [(hperm.map ListenerRecord.id).nodup_iff, map_cons, nodup_cons]
          refine ⟨fun hin => ?_, hl.distinct⟩
          obtain ⟨l, hold, hid⟩ := mem_map.mp hin
          exact absurd (hl.listeners l hold).2 (by rw [hid]; exact Nat.lt_irrefl _)
        · intro id
          rw [mem_cons, hlive id]
          constructor
          · rintro (rfl | ⟨l, hold, hid⟩)
            · exact ⟨_, (hmem _).mpr (Or.inl rfl), rfl⟩
            · exact ⟨l, (hmem l).mpr (Or.inr hold), hid⟩
          · rintro ⟨l, hmem', hid⟩
            rcases (hmem l).mp hmem' with rfl | hold
            · exact Or.inl hid.symm
            · exact Or.inr ⟨l, hold, hid⟩
      · exact absurd hst hn

/-- Dropping some listeners, with their ids no longer live, keeps the invariant. -/
theorem Listening.filter {hook : HookRecord β} (h : Listening hook)
    (keep : ListenerRecord β → Bool) :
    Listening { hook with listeners := hook.listeners.filter keep } where
  state := h.state
  active := h.active
  listeners := fun l hl => h.listeners l (mem_filter.mp hl).1
  distinct := h.distinct.sublist (filter_sublist.map _)

theorem Kept.erase (h : Kept w) (id : Nat) : Kept (applyListenerOp w (.erase id)) := by
  rcases h with ⟨hl, hlive⟩ | ⟨hn, hnone⟩
  · left
    refine ⟨hl.filter _, fun other => ?_⟩
    simp only [applyListenerOp, eraseListener, mem_filter, hlive, decide_eq_true_eq, ne_eq]
    constructor
    · rintro ⟨⟨l, hmem, rfl⟩, hne⟩
      exact ⟨l, ⟨hmem, hne⟩, rfl⟩
    · rintro ⟨l, ⟨hmem, hne⟩, rfl⟩
      exact ⟨⟨l, hmem, rfl⟩, hne⟩
  · exact Or.inr ⟨hn, by simp only [applyListenerOp, hnone, filter_nil]⟩

/-- Two listeners with one id are the same listener. -/
theorem Listening.eq_of_id {hook : HookRecord β} (h : Listening hook) {l m : ListenerRecord β}
    (hl : l ∈ hook.listeners) (hm : m ∈ hook.listeners) (hid : l.id = m.id) : l = m :=
  inj_on_of_nodup_map h.distinct hl hm hid

/-- What an invalidation does to an installed hook: the stale listeners go, and the hook is taken
down only when none is left. -/
theorem invalidateHook_cases {hook : HookRecord β} (h : hook.state = .installed)
    (published : Option PublishedHostHook) (invalidation : Invalidation β)
    (outcome : UnhookOutcome) :
    (invalidateHook hook published invalidation outcome).1 =
        { hook with listeners := hook.listeners.filter fun l => !invalidation.stale l.binding } ∨
      (hook.listeners.filter (fun l => !invalidation.stale l.binding) = [] ∧
        (invalidateHook hook published invalidation outcome).1.state ≠ .installed) := by
  unfold invalidateHook
  rw [if_neg (by simp [h])]
  by_cases hempty : hook.listeners = []
  · have hfilter : hook.listeners.filter (fun l => !invalidation.stale l.binding) = [] := by
      rw [hempty]
      rfl
    simp only [if_pos hempty]
    split
    · left
      rw [hfilter, ← hempty]
    · exact Or.inr ⟨hfilter, unhookRecordLocked_state _ _ _⟩
  · simp only [if_neg hempty, removeMatchingListeners]
    split
    · exact Or.inl rfl
    · next hgo =>
      refine Or.inr ⟨?_, unhookRecordLocked_state _ _ _⟩
      exact not_not.mp (not_or.mp hgo).2

/-- An invalidation does not install anything. -/
theorem invalidateHook_state {hook : HookRecord β} (h : hook.state ≠ .installed)
    (published : Option PublishedHostHook) (invalidation : Invalidation β)
    (outcome : UnhookOutcome) :
    (invalidateHook hook published invalidation outcome).1.state ≠ .installed := by
  unfold invalidateHook
  split
  · exact h
  · by_cases hempty : hook.listeners = []
    · simp only [if_pos hempty]
      split
      · exact h
      · exact unhookRecordLocked_state _ _ _
    · simp only [if_neg hempty, removeMatchingListeners]
      split
      · exact h
      · exact unhookRecordLocked_state _ _ _

theorem Kept.invalidate (h : Kept w) (invalidation : Invalidation β) (outcome : UnhookOutcome) :
    Kept (applyListenerOp w (.invalidate invalidation outcome)) := by
  rcases h with ⟨hl, hlive⟩ | ⟨hn, hnone⟩
  · have hmem : ∀ id, id ∈ (applyListenerOp w (.invalidate invalidation outcome)).live ↔
        ∃ l ∈ w.hook.listeners.filter (fun l => !invalidation.stale l.binding), l.id = id := by
      intro id
      simp only [applyListenerOp, mem_filter, hlive, Bool.not_eq_true', any_eq_false,
        Bool.and_eq_true, decide_eq_true_eq, not_and, Bool.not_eq_true]
      constructor
      · rintro ⟨⟨l, hmem, rfl⟩, hfresh⟩
        exact ⟨l, ⟨hmem, hfresh l hmem rfl⟩, rfl⟩
      · rintro ⟨l, ⟨hmem, hfresh⟩, rfl⟩
        refine ⟨⟨l, hmem, rfl⟩, fun m hm hid => ?_⟩
        rw [hl.eq_of_id hm hmem hid]
        exact hfresh
    rcases invalidateHook_cases hl.state w.published invalidation outcome with hkeep | ⟨he, hdown⟩
    · left
      have hhook : (applyListenerOp w (.invalidate invalidation outcome)).hook =
          { w.hook with
            listeners := w.hook.listeners.filter fun l => !invalidation.stale l.binding } := hkeep
      rw [hhook]
      exact ⟨hl.filter _, hmem⟩
    · refine Or.inr ⟨hdown, eq_nil_iff_forall_not_mem.mpr fun id hid => ?_⟩
      obtain ⟨l, hin, -⟩ := (hmem id).mp hid
      rw [he] at hin
      exact absurd hin not_mem_nil
  · exact Or.inr ⟨invalidateHook_state hn _ _ _, by simp only [applyListenerOp, hnone,
      filter_nil]⟩

/-- Admission only counts. -/
theorem admitInvocation_frame {gated : Bool} {hook hook' : HookRecord β}
    (h : admitInvocation gated hook = some hook') :
    hook' = { hook with inFlight := hook.inFlight + 1 } := by
  unfold admitInvocation at h
  split at h
  · cases h
  · dsimp only at h
    split at h
    · cases h
    · cases h
      rfl

theorem Kept.finish (h : Kept w) (outcome : UnhookOutcome) :
    Kept (applyListenerOp w (.finish outcome)) := by
  simp only [applyListenerOp]
  split
  · exact h
  · split
    · exact h.of_hook rfl rfl rfl rfl rfl
    · next hunhooking =>
      have hst : w.hook.state = .unhooking := not_not.mp hunhooking
      rcases h with ⟨hl, -⟩ | ⟨-, hnone⟩
      · exact absurd (hst.symm.trans hl.state) (by decide)
      · refine Or.inr ⟨?_, hnone⟩
        rcases finishUnhookLocked_state w.hook w.published outcome with hs | hs | hs
        · simp only [hs, hst, ne_eq, reduceCtorEq, not_false_eq_true]
        · simp only [hs, ne_eq, reduceCtorEq, not_false_eq_true]
        · simp only [hs, ne_eq, reduceCtorEq, not_false_eq_true]

/-- A removal that finds the list empty, or the hook already on its way down. -/
theorem Kept.removeHook (h : Kept w) (outcome : UnhookOutcome)
    (hempty : RemovesEmptyHook w (.removeHook outcome)) :
    Kept (applyListenerOp w (.removeHook outcome)) := by
  simp only [applyListenerOp]
  split
  · exact h
  · next hremoving =>
    refine Or.inr ⟨unhookRecordLocked_state _ _ _, ?_⟩
    rcases h with ⟨hl, hlive⟩ | ⟨-, hnone⟩
    · refine eq_nil_iff_forall_not_mem.mpr fun id hid => ?_
      obtain ⟨l, hin, -⟩ := (hlive id).mp hid
      rw [hempty hremoving hl.state] at hin
      exact absurd hin not_mem_nil
    · exact hnone

/-- A step that meets the condition keeps the invariant. -/
theorem Kept.step (h : Kept w) {op : ListenerOp β} (hop : RemovesEmptyHook w op) :
    Kept (applyListenerOp w op) := by
  cases op with
  | add request => exact h.add request
  | erase id => exact h.erase id
  | removeHook outcome => exact h.removeHook outcome hop
  | invalidate invalidation outcome => exact h.invalidate invalidation outcome
  | acquire | release => exact h.of_hook rfl rfl rfl rfl rfl
  | enter =>
    cases hadmit : admitInvocation w.published.isSome w.hook with
    | none =>
      simp only [applyListenerOp, hadmit]
      exact h
    | some hook =>
      simp only [applyListenerOp, hadmit, admitInvocation_frame hadmit]
      exact h.of_hook rfl rfl rfl rfl rfl
  | exit =>
    simp only [applyListenerOp]
    split
    · exact h
    · exact h.of_hook rfl rfl rfl rfl rfl
  | finish outcome => exact h.finish outcome

/-- A removal that takes down an installed hook with a listener loses it. -/
theorem Kept.lost (h : Kept w) {op : ListenerOp β} (hop : ¬ RemovesEmptyHook w op) :
    ¬ NoLostListener (applyListenerOp w op) := by
  cases op with
  | add request | erase id | invalidate invalidation outcome | acquire | release | enter | exit
  | finish outcome => exact absurd trivial hop
  | removeHook outcome =>
    simp only [RemovesEmptyHook, Classical.not_imp] at hop
    obtain ⟨hremoving, hst, hne⟩ := hop
    intro hsafe
    rcases h with ⟨-, hlive⟩ | ⟨hn, -⟩
    · obtain ⟨l, hmem⟩ := exists_mem_of_ne_nil _ hne
      have hid : l.id ∈ (applyListenerOp w (.removeHook outcome)).live := by
        simp only [applyListenerOp, if_neg hremoving]
        exact (hlive l.id).mpr ⟨l, hmem, rfl⟩
      have hinstalled := (hsafe l.id hid).2
      simp only [applyListenerOp, if_neg hremoving] at hinstalled
      exact unhookRecordLocked_state _ _ _ hinstalled
    · exact hn hst

end Invariant

theorem Listening.kept {hook : HookRecord β} (h : Listening hook)
    (published : Option PublishedHostHook) : Kept (startListening hook published) :=
  Or.inl ⟨h, fun _ => mem_map⟩

/-- Along every interleaving on an installed hook, no listener is lost exactly when every removal
that takes the hook down finds its list still empty. -/
theorem no_lost_listener_iff {hook : HookRecord β} (h : Listening hook)
    (published : Option PublishedHostHook) (ops : List (ListenerOp β)) :
    Along applyListenerOp NoLostListener (startListening hook published) ops ↔
      AlongSteps applyListenerOp RemovesEmptyHook (startListening hook published) ops :=
  along_iff (I := Kept) (R := fun _ _ => True) (fun _ hw => hw.noLostListener)
    (fun _ _ hw _ hop => hw.step hop) (fun _ _ hw _ hop => hw.lost hop)
    (fun _ _ _ => trivial) (h.kept published)

/-! ## The schedule that loses a listener -/

/-- An installed hook with one listener, and no published gate. -/
def oneListenerHook : HookRecord Unit where
  target := 0x1000
  hasMethod := true
  sharedCodeOptIn := false
  state := .installed
  active := true
  inFlight := 0
  backendInstalled := true
  entryReady := true
  exceptionBridgeConsumer := false
  boundToCodeTarget := false
  vmAdapterRetained := false
  nextListenerId := 2
  nextRegistrationOrder := 2
  listenerHandles := 1
  listeners := [⟨1, 0, 1, true, ()⟩]

theorem oneListenerHook_listening : Listening oneListenerHook where
  state := rfl
  active := rfl
  listeners := by
    intro l hl
    rw [mem_singleton.mp hl]
    exact ⟨rfl, Nat.lt_succ_self 1⟩
  distinct := nodup_singleton 1

/-- A second owner's request, which every check admits. -/
def secondOwnerRequest : AddRequest Unit where
  target := 0x1000
  validOptions := true
  priority := 0
  sharedCodeTarget := false
  allowsSharedCode := false
  generation := none
  realDart := false
  vmAdapter := none
  hasCallLayout := false
  liveBinding := .ok ()
  layoutProfile := .ok ()
  binding := ()

/-- The first owner removes its listener, the second owner adds one, and only then does the first
owner's removal take `State().mutex`. -/
def lostAddSchedule : List (ListenerOp Unit) :=
  [.erase 1, .add secondOwnerRequest, .removeHook ⟨true, true, true⟩]

/-- The same removals and adds in an order that loses nothing. -/
def keptAddSchedule : List (ListenerOp Unit) :=
  [.add secondOwnerRequest, .erase 1, .removeHook ⟨true, true, true⟩]

/-- The second owner's add returns OK, nobody removes its listener, and the listener is lost. -/
theorem lostAddSchedule_loses :
    (addCallbackListenerForMethod (eraseListener oneListenerHook 1).1 secondOwnerRequest).2 =
        .ok 2 ∧
      ¬ Along applyListenerOp NoLostListener (startListening oneListenerHook none)
        lostAddSchedule := by
  refine ⟨by decide, fun h => ?_⟩
  have hlast : NoLostListener (lostAddSchedule.foldl applyListenerOp
      (startListening oneListenerHook none)) := h lostAddSchedule (prefix_refl _)
  have hlive : 2 ∈ (lostAddSchedule.foldl applyListenerOp
      (startListening oneListenerHook none)).live := by decide
  have hinstalled := (hlast 2 hlive).2
  revert hinstalled
  decide

theorem keptAddSchedule_keeps :
    Listening oneListenerHook ∧
      Along applyListenerOp NoLostListener (startListening oneListenerHook none)
        keptAddSchedule := by
  refine ⟨oneListenerHook_listening,
    (no_lost_listener_iff oneListenerHook_listening none keptAddSchedule).mpr ?_⟩
  refine alongSteps_cons.mpr ⟨trivial, alongSteps_cons.mpr ⟨trivial,
    alongSteps_cons.mpr ⟨fun hremoving => ?_, alongSteps_nil⟩⟩⟩
  exact absurd (by decide) hremoving

end DartPlant
