import DartPlant.Core.ListenerSchedule
import DartPlant.Lib.UpperBound

/-! # The callback order of a hook

The listeners of a hook stand in callback order: higher priority first, and of equals the one that
was registered earlier.  An insertion finds the place of the new listener and a removal keeps the
order of the others, so every operation of the registry keeps it
(`CallbackOrdered.applyListenerOp`).
-/

namespace DartPlant
open UpperBound

section Order
variable {β : Type} {listener other last : ListenerRecord β}

theorem before_iff : listener.before other = true ↔ other.priority < listener.priority ∨
    listener.priority = other.priority ∧
      listener.registrationOrder < other.registrationOrder := by
  unfold ListenerRecord.before
  split
  next hne =>
    rw [decide_eq_true_iff]
    exact ⟨Or.inl, fun h => h.resolve_right fun heq => hne heq.1⟩
  next heq =>
    rw [not_not] at heq
    rw [decide_eq_true_iff]
    refine ⟨fun h => Or.inr ⟨heq, h⟩, fun h => (h.resolve_left ?_).2⟩
    exact fun hlt => absurd heq (Int.ne_of_gt hlt)

theorem before_trans (h : listener.before other = true) (h' : other.before last = true) :
    listener.before last = true := by
  rw [before_iff] at h h' ⊢
  omega

theorem before_irrefl : ¬ listener.before listener = true := by
  rw [before_iff]
  omega

/-- Of two listeners one comes before the other, if they were not registered as one. -/
theorem before_of_not (h : ¬ listener.before other = true)
    (hearlier : other.registrationOrder < listener.registrationOrder) :
    other.before listener = true := by
  rw [before_iff] at h ⊢
  omega

end Order

/-- The listeners are in callback order, and the next one will be registered last. -/
structure CallbackOrdered {β : Type} (hook : HookRecord β) : Prop where
  ordered : hook.listeners.Pairwise fun l m => l.before m = true
  numbered : ∀ l ∈ hook.listeners, l.registrationOrder < hook.nextRegistrationOrder

section Registry
variable {β : Type} {hook after : HookRecord β}

/-- A listener stands once. -/
theorem CallbackOrdered.nodup (h : CallbackOrdered hook) : hook.listeners.Nodup := by
  apply List.Pairwise.imp _ h.ordered
  rintro l m hbefore rfl
  exact before_irrefl hbefore

/-- Listeners may have gone, and none was numbered. -/
structure OrderFrame (before after : HookRecord β) : Prop where
  listeners : after.listeners.Sublist before.listeners
  next : after.nextRegistrationOrder = before.nextRegistrationOrder

theorem OrderFrame.refl (hook : HookRecord β) : OrderFrame hook hook :=
  ⟨List.Sublist.refl _, rfl⟩

theorem OrderFrame.trans {last : HookRecord β} (h : OrderFrame hook after)
    (h' : OrderFrame after last) : OrderFrame hook last :=
  ⟨h'.listeners.trans h.listeners, h'.next.trans h.next⟩

theorem CallbackOrdered.frame (h : CallbackOrdered hook) (hframe : OrderFrame hook after) :
    CallbackOrdered after where
  ordered := h.ordered.sublist hframe.listeners
  numbered l hl := by
    rw [hframe.next]
    exact h.numbered l (hframe.listeners.subset hl)

/-- The upper bound of a listener that was registered after all others is its place. -/
theorem CallbackOrdered.insertListener (h : CallbackOrdered hook) {listener : ListenerRecord β}
    (hlast : ∀ l ∈ hook.listeners, l.registrationOrder < listener.registrationOrder)
    (hnext : listener.registrationOrder < hook.nextRegistrationOrder) :
    CallbackOrdered (DartPlant.insertListener hook listener) := by
  have hplace : (DartPlant.insertListener hook listener).listeners =
      insertAt ListenerRecord.before listener hook.listeners := rfl
  constructor
  · rw [hplace]
    refine pairwise_insertAt (fun _ _ _ => before_trans) h.ordered ?_
    intro l hl hnot
    exact before_of_not (Bool.eq_false_iff.mp hnot) (hlast l hl)
  · intro l hl
    rw [hplace] at hl
    rcases List.mem_cons.mp (perm_insertAt.mem_iff.mp hl) with rfl | hl
    · exact hnext
    · exact h.numbered l hl

theorem CallbackOrdered.addCallbackListenerForMethod (h : CallbackOrdered hook)
    (request : AddRequest β) :
    CallbackOrdered (DartPlant.addCallbackListenerForMethod hook request).1 := by
  unfold DartPlant.addCallbackListenerForMethod
  split
  · exact h
  unfold addCallbackListener
  split
  · exact h
  split
  · exact h
  have hnumbered : CallbackOrdered (makeListener hook request).1 :=
    ⟨h.ordered, fun l hl => Nat.lt_succ_of_lt (h.numbered l hl)⟩
  have hinserted : CallbackOrdered
      (DartPlant.insertListener (makeListener hook request).1 (makeListener hook request).2) :=
    hnumbered.insertListener (fun l hl => h.numbered l hl) (Nat.lt_succ_self _)
  exact ⟨hinserted.ordered, hinserted.numbered⟩

theorem finishReturns_orderFrame (hook : HookRecord β) (outcome : UnhookOutcome) :
    OrderFrame hook (finishReturns hook outcome).1 := by
  unfold finishReturns
  dsimp only
  split
  · exact ⟨List.Sublist.refl _, rfl⟩
  · exact ⟨List.Sublist.refl _, rfl⟩

theorem finishUnhookLocked_orderFrame (hook : HookRecord β)
    (published : Option PublishedHostHook) (outcome : UnhookOutcome) :
    OrderFrame hook (finishUnhookLocked hook published outcome).1 := by
  have hreleased : ∀ backendInstalled, OrderFrame hook { hook with backendInstalled } :=
    fun _ => ⟨List.Sublist.refl _, rfl⟩
  unfold finishUnhookLocked
  split
  · exact finishReturns_orderFrame hook outcome
  split
  next gated =>
    dsimp only
    split
    · exact .refl hook
    split
    · exact .refl hook
    split
    · exact ⟨List.Sublist.refl _, rfl⟩
    · exact (hreleased _).trans (finishReturns_orderFrame _ outcome)
  next =>
    split
    · exact ⟨List.Sublist.refl _, rfl⟩
    · exact (hreleased _).trans (finishReturns_orderFrame _ outcome)

theorem unhookRecordLocked_orderFrame (hook : HookRecord β)
    (published : Option PublishedHostHook) (outcome : UnhookOutcome) :
    OrderFrame hook (unhookRecordLocked hook published outcome).1 := by
  unfold unhookRecordLocked
  split
  · exact .refl hook
  next drained gatedDrain hstart =>
    have hdrained : OrderFrame hook drained := by
      unfold startUnhook at hstart
      split at hstart
      · cases hstart
      split at hstart
      · cases hstart
      split at hstart
      · cases hstart
      cases hstart
      exact ⟨List.nil_sublist _, rfl⟩
    dsimp only
    split
    · exact hdrained
    · exact hdrained.trans (finishUnhookLocked_orderFrame drained _ outcome)

theorem invalidateHook_orderFrame (hook : HookRecord β) (published : Option PublishedHostHook)
    (invalidation : Invalidation β) (outcome : UnhookOutcome) :
    OrderFrame hook (invalidateHook hook published invalidation outcome).1 := by
  unfold invalidateHook
  split
  · exact .refl hook
  have hcleared : OrderFrame hook
      (if hook.listeners = [] then (hook, invalidation.matchesRecord)
        else removeMatchingListeners hook invalidation.stale).1 := by
    split
    · exact .refl hook
    · exact ⟨List.filter_sublist, rfl⟩
  generalize (if hook.listeners = [] then (hook, invalidation.matchesRecord)
    else removeMatchingListeners hook invalidation.stale) = cleared at hcleared
  dsimp only
  split
  · exact hcleared
  · exact hcleared.trans (unhookRecordLocked_orderFrame _ published outcome)

theorem admitInvocation_orderFrame {gated : Bool}
    (h : admitInvocation gated hook = some after) : OrderFrame hook after := by
  unfold admitInvocation at h
  split at h
  · cases h
  dsimp only at h
  split at h
  · cases h
  obtain rfl := Option.some.inj h
  exact ⟨List.Sublist.refl _, rfl⟩

/-- Every operation of the registry keeps the callback order. -/
theorem CallbackOrdered.applyListenerOp {w : ListenerWorld β} (h : CallbackOrdered w.hook)
    (op : ListenerOp β) : CallbackOrdered (DartPlant.applyListenerOp w op).hook := by
  cases op with
  | add request =>
    have hadd := h.addCallbackListenerForMethod request
    rw [DartPlant.applyListenerOp]
    cases hresult : DartPlant.addCallbackListenerForMethod w.hook request with
    | mk record result =>
      rw [hresult] at hadd
      cases result with
      | ok id => exact hadd
      | error failure => exact hadd
  | erase id => exact h.frame ⟨List.filter_sublist, rfl⟩
  | removeHook outcome =>
    rw [DartPlant.applyListenerOp]
    split
    · exact h
    · exact h.frame (unhookRecordLocked_orderFrame w.hook w.published outcome)
  | invalidate invalidation outcome =>
    exact h.frame (invalidateHook_orderFrame w.hook w.published invalidation outcome)
  | acquire => exact h
  | release => exact h
  | enter =>
    rw [DartPlant.applyListenerOp]
    cases hadmit : admitInvocation w.published.isSome w.hook with
    | none => exact h
    | some record => exact h.frame (admitInvocation_orderFrame hadmit)
  | exit =>
    rw [DartPlant.applyListenerOp]
    split
    · exact h
    · exact h.frame ⟨List.Sublist.refl _, rfl⟩
  | finish outcome =>
    rw [DartPlant.applyListenerOp]
    split
    · exact h
    split
    · exact h
    · exact h.frame (finishUnhookLocked_orderFrame w.hook w.published outcome)

end Registry

end DartPlant
