import DartPlant.Core.HookRecord
import Mathlib.Data.List.Perm.Basic

/-! # Adding and removing listeners

The listener half of the hook registry: admission of a listener to an installed hook, its place in
the callback order, and its removal by the owner of its handle or by an invalidation.

The checks of `AddCallbackListener` before it takes `hook->mutex` look at the request and at other
components; what they see is in the request.  `AddCallbackListenerForMethod` holds `State().mutex`
throughout, and the record it finds cannot become unhooked before the listener is inserted.
-/

namespace DartPlant

variable {β : Type}

/-- What a VM adapter answers to the admission checks. -/
structure AdapterAdmission where
  supportsGeneratedCallbackBridge : Bool
  admissionOpen : Bool
  deriving DecidableEq, Repr

/-- A request to add a listener.  `generation` is the current value of the listener's runtime
generation and the one it expects; `liveBinding` and `layoutProfile` are the outcomes of
`ProveLiveFunctionBinding` and `BindCallLayoutProfile`. -/
structure AddRequest (β : Type) where
  target : Address
  validOptions : Bool
  priority : Int
  sharedCodeTarget : Bool
  allowsSharedCode : Bool
  generation : Option (Nat × Nat)
  realDart : Bool
  vmAdapter : Option AdapterAdmission
  hasCallLayout : Bool
  liveBinding : Result Unit
  layoutProfile : Result Unit
  binding : β

/-- The callback order: higher priority first, earlier registration first among equals. -/
def ListenerRecord.before (listener other : ListenerRecord β) : Bool :=
  if listener.priority ≠ other.priority then listener.priority > other.priority
  else listener.registrationOrder < other.registrationOrder

/-- `MakeListenerLocked`: a fresh record, and the hook with its counters advanced. -/
def makeListener (hook : HookRecord β) (request : AddRequest β) :
    HookRecord β × ListenerRecord β :=
  ({ hook with
      nextListenerId := hook.nextListenerId + 1
      nextRegistrationOrder := hook.nextRegistrationOrder + 1 },
    { id := hook.nextListenerId
      priority := request.priority
      registrationOrder := hook.nextRegistrationOrder
      active := true
      binding := request.binding })

/-- `InsertListenerLocked`: at the upper bound of the listener in the callback order, which on the
ordered list is before the first record the listener precedes. -/
def insertListener (hook : HookRecord β) (listener : ListenerRecord β) : HookRecord β :=
  { hook with
    listeners := hook.listeners.takeWhile (fun other => !listener.before other) ++
      listener :: hook.listeners.dropWhile (fun other => !listener.before other) }

/-- The checks of `AddCallbackListener` before it takes `hook->mutex`. -/
def checkAddRequest (hook : HookRecord β) (request : AddRequest β) : Result Unit :=
  if request.validOptions = false then
    .error ⟨.invalidArgument, "listener arguments are invalid"⟩
  else if request.target ≠ nullptr ∧ request.target ≠ hook.target then
    .error ⟨.invalidArgument, "listener method does not resolve to the active entry target"⟩
  else if request.sharedCodeTarget ∧ (hook.sharedCodeOptIn = false ∨
      request.allowsSharedCode = false) then
    .error ⟨.sharedCodeEntry, "method listener target is shared by multiple Dart Functions; " ++
      "both the physical hook and listener require explicit shared-code opt-in"⟩
  else if request.generation.any (fun g => g.2 = 0 ∨ g.1 ≠ g.2) then
    .error ⟨.runtimeNotReady, "listener runtime generation is stale"⟩
  else if request.realDart ∧ request.vmAdapter.any (fun adapter =>
      request.hasCallLayout = false ∨ adapter.supportsGeneratedCallbackBridge = false) then
    .error ⟨.unsupportedAbi, "VM-adapter listeners on Dart code require a verified " ++
      "DartCallLayout and a GC-safe generated/native bridge"⟩
  else if request.vmAdapter.any (fun adapter => adapter.admissionOpen = false) then
    .error ⟨.vmAdapterBusy, "VM adapter is quiescing and rejects new callback listeners"⟩
  else if request.realDart then
    match request.liveBinding with
    | .error failure => .error failure
    | .ok () => request.layoutProfile
  else .ok ()

/-- `AddCallbackListener`: the status with, on success, the new listener's id. -/
def addCallbackListener (hook : HookRecord β) (request : AddRequest β) :
    HookRecord β × Result Nat :=
  match checkAddRequest hook request with
  | .error failure => (hook, .error failure)
  | .ok () =>
    if hook.state ≠ .installed ∨ hook.active = false then
      (hook, .error ⟨.unhookFailed, "hook is not active"⟩)
    else
      let (numbered, listener) := makeListener hook request
      let inserted := insertListener numbered listener
      ({ inserted with listenerHandles := inserted.listenerHandles + 1 }, .ok listener.id)

/-- `AddCallbackListenerForMethod`, when `hook` is the one record of its target. -/
def addCallbackListenerForMethod (hook : HookRecord β) (request : AddRequest β) :
    HookRecord β × Result Nat :=
  if request.target ≠ hook.target ∨ hook.state = .unhooked ∨ hook.hasMethod = false then
    (hook, .error ⟨.notInitialized, "method does not have an active callback hook"⟩)
  else addCallbackListener hook request

/-- The critical section of `dartplant_remove_listener`: the record without the listener, and
whether the caller goes on to `RemoveHook`. -/
def eraseListener (hook : HookRecord β) (id : Nat) : HookRecord β × Bool :=
  let erased := { hook with listeners := hook.listeners.filter (fun l => l.id ≠ id) }
  (erased, erased.listeners = [] ∧ erased.state = .installed)

/-- `RemoveMatchingListenersLocked`: the record without the matching listeners, and whether there
were any. -/
def removeMatchingListeners (hook : HookRecord β) (stale : β → Bool) : HookRecord β × Bool :=
  ({ hook with listeners := hook.listeners.filter (fun l => !stale l.binding) },
    hook.listeners.any fun l => stale l.binding)

/-- Which hooks and listeners an invalidation is about.  `skipUnhooked` is set for an adapter's
quiescence; `matchesRecord` is the match on the record itself, for records without listeners. -/
structure Invalidation (β : Type) where
  skipUnhooked : Bool
  matchesRecord : Bool
  stale : β → Bool

/-- One hook's turn in `InvalidateRuntimeHooks`, `InvalidateRuntimeImageHooks` or
`QuiesceVmAdapterHooks`. -/
def invalidateHook (hook : HookRecord β) (published : Option PublishedHostHook)
    (invalidation : Invalidation β) (outcome : UnhookOutcome) :
    HookRecord β × Option PublishedHostHook × Result Unit :=
  if hook.state = .retired ∨ (invalidation.skipUnhooked ∧ hook.state = .unhooked) then
    (hook, published, .ok ())
  else
    let (cleared, found) :=
      if hook.listeners = [] then (hook, invalidation.matchesRecord)
      else removeMatchingListeners hook invalidation.stale
    if found = false ∨ cleared.listeners ≠ [] then (cleared, published, .ok ())
    else unhookRecordLocked cleared published outcome

/-! ## Laws -/

section Laws
variable {hook : HookRecord β} {request : AddRequest β}

theorem insertListener_perm (hook : HookRecord β) (listener : ListenerRecord β) :
    (insertListener hook listener).listeners.Perm (listener :: hook.listeners) := by
  have hsplit := List.takeWhile_append_dropWhile
    (p := fun other => !listener.before other) (l := hook.listeners)
  calc (insertListener hook listener).listeners
      |>.Perm (listener :: (hook.listeners.takeWhile (fun other => !listener.before other) ++
        hook.listeners.dropWhile (fun other => !listener.before other))) := List.perm_middle
    _ = listener :: hook.listeners := by rw [hsplit]

/-- What an accepted request does: the checks passed on an installed active hook, and the record
gained one active listener with the next id. -/
theorem addCallbackListenerForMethod_ok {hook' : HookRecord β} {id : Nat}
    (h : addCallbackListenerForMethod hook request = (hook', .ok id)) :
    hook.state = .installed ∧ hook.active = true ∧ id = hook.nextListenerId ∧
      hook'.state = .installed ∧ hook'.active = true ∧
      hook'.nextListenerId = hook.nextListenerId + 1 ∧
      hook'.listeners.Perm ((makeListener hook request).2 :: hook.listeners) := by
  unfold addCallbackListenerForMethod at h
  split at h
  · simp only [Prod.mk.injEq, reduceCtorEq, and_false] at h
  · unfold addCallbackListener at h
    split at h
    · simp only [Prod.mk.injEq, reduceCtorEq, and_false] at h
    · split at h
      · simp only [Prod.mk.injEq, reduceCtorEq, and_false] at h
      · next hready =>
        obtain ⟨hinstalled, hactive⟩ := not_or.mp hready
        have hst : hook.state = .installed := not_not.mp hinstalled
        have hac : hook.active = true := by simpa using hactive
        simp only [makeListener, Prod.mk.injEq, Except.ok.injEq] at h
        obtain ⟨rfl, rfl⟩ := h
        refine ⟨hst, hac, rfl, hst, hac, rfl, ?_⟩
        exact insertListener_perm { hook with
          nextListenerId := hook.nextListenerId + 1
          nextRegistrationOrder := hook.nextRegistrationOrder + 1 } _

/-- A refused request leaves the record as it was. -/
theorem addCallbackListenerForMethod_error {hook' : HookRecord β} {failure : Failure}
    (h : addCallbackListenerForMethod hook request = (hook', .error failure)) : hook' = hook := by
  unfold addCallbackListenerForMethod at h
  split at h
  · simp only [Prod.mk.injEq] at h
    exact h.1.symm
  · unfold addCallbackListener at h
    split at h
    · simp only [Prod.mk.injEq] at h
      exact h.1.symm
    · split at h
      · simp only [Prod.mk.injEq] at h
        exact h.1.symm
      · simp only [Prod.mk.injEq, reduceCtorEq, and_false] at h

theorem finishReturns_state (outcome : UnhookOutcome) :
    (finishReturns hook outcome).1.state = .failed ∨
      (finishReturns hook outcome).1.state = .unhooked := by
  unfold finishReturns
  split
  · exact Or.inl rfl
  · exact Or.inr rfl

/-- An unhook that goes on leaves the record as it was, failed or unhooked. -/
theorem finishUnhookLocked_state (hook : HookRecord β) (published : Option PublishedHostHook)
    (outcome : UnhookOutcome) :
    (finishUnhookLocked hook published outcome).1.state = hook.state ∨
      (finishUnhookLocked hook published outcome).1.state = .failed ∨
      (finishUnhookLocked hook published outcome).1.state = .unhooked := by
  unfold finishUnhookLocked
  split
  · exact Or.inr (finishReturns_state outcome)
  · cases published with
    | none =>
      dsimp only
      split
      · exact Or.inr (Or.inl rfl)
      · exact Or.inr (finishReturns_state outcome)
    | some gated =>
      dsimp only
      split
      · exact Or.inl rfl
      · split
        · exact Or.inl rfl
        · split
          · exact Or.inr (Or.inl rfl)
          · exact Or.inr (finishReturns_state outcome)

/-- No record is installed after `UnhookRecordLocked`. -/
theorem unhookRecordLocked_state (hook : HookRecord β) (published : Option PublishedHostHook)
    (outcome : UnhookOutcome) :
    (unhookRecordLocked hook published outcome).1.state ≠ .installed := by
  unfold unhookRecordLocked
  have hstart : ∀ result, startUnhook published.isSome hook = .done result →
      hook.state ≠ .installed := by
    intro result hdone hinstalled
    simp only [startUnhook, hinstalled, reduceCtorEq, if_false] at hdone
  have hdrain : ∀ drained gatedDrain,
      startUnhook published.isSome hook = .drain drained gatedDrain →
      drained.state = .unhooking := by
    intro drained gatedDrain h
    unfold startUnhook at h
    split at h
    · cases h
    · split at h
      · cases h
      · split at h
        · cases h
        · cases h
          rfl
  cases hs : startUnhook published.isSome hook with
  | done result => exact hstart result hs
  | drain drained gatedDrain =>
    have hunhooking := hdrain drained gatedDrain hs
    dsimp only
    split
    · simp only [hunhooking, ne_eq, reduceCtorEq, not_false_eq_true]
    · rcases finishUnhookLocked_state drained
        (if gatedDrain then published.map beginDrainPublishedHostHook else published) outcome
        with h | h | h
      · simp only [h, hunhooking, ne_eq, reduceCtorEq, not_false_eq_true]
      · simp only [h, ne_eq, reduceCtorEq, not_false_eq_true]
      · simp only [h, ne_eq, reduceCtorEq, not_false_eq_true]

end Laws

end DartPlant
