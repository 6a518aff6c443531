import DartPlant.Host.PublicationGate

/-! # The hook record

One record per hooked entry.  Every function here is the body of one critical section of
`hook->mutex`, or a sequence of them run by the thread that holds `State().mutex`, and is named after
the function of the registry it comes from.

`β` is what a listener was registered with: its options, adapter, generation receipts, requested
method and call layout.  The registry copies it and hands it to checks of other components, so the
record keeps it whole and the checks are parameters.  A listener record is shared between the hook's
list and the caller's handle; a record that left the list was deactivated in the same section, so a
listener is active exactly while the list holds it with its flag set.

The counters are unbounded.  `in_flight` counts frames that exist at the same time in one address
space, so the 64 bits of the source are never exhausted.
-/

namespace DartPlant

inductive HookRecordState where
  | created
  | installing
  | installed
  | unhooking
  | unhooked
  | failed
  | failedAfterPublished
  | retired
  deriving DecidableEq, Repr

structure ListenerRecord (β : Type) where
  id : Nat
  priority : Int
  registrationOrder : Nat
  active : Bool
  binding : β
  deriving DecidableEq, Repr

/-- The hook record, without its gate, which `UnhookRecordLocked` and `FinishUnhookLocked` take
beside it. -/
structure HookRecord (β : Type) where
  target : Address
  hasMethod : Bool
  sharedCodeOptIn : Bool
  state : HookRecordState
  active : Bool
  inFlight : Nat
  backendInstalled : Bool
  entryReady : Bool
  exceptionBridgeConsumer : Bool
  boundToCodeTarget : Bool
  vmAdapterRetained : Bool
  nextListenerId : Nat
  nextRegistrationOrder : Nat
  listenerHandles : Nat
  listeners : List (ListenerRecord β)
  deriving DecidableEq, Repr

variable {β : Type}

/-! ## Invocations -/

/-- The admission half of `BeginInvocation`: the pin on the record, or a refusal.  `gated` is
whether the hook has a published gate. -/
def admitInvocation (gated : Bool) (hook : HookRecord β) : Option (HookRecord β) :=
  if hook.hasMethod = false ∨ hook.state = .retired ∨ hook.state = .unhooked ∨
      hook.state = .installing then none
  else
    let publishedPassthrough := gated && hook.backendInstalled
    if hook.state = .failed ∧ publishedPassthrough = false then none
    else some { hook with inFlight := hook.inFlight + 1 }

/-- The listeners an admitted invocation enters.  `current` is the receipt check of one listener:
its generation, its adapter's admission and its ABI binding. -/
def enteredListeners (current : β → Bool) (hook : HookRecord β) : List (ListenerRecord β) :=
  if hook.state ≠ .installed ∨ hook.active = false then []
  else hook.listeners.filter fun listener => listener.active && current listener.binding

/-- `BeginInvocation`: the pinned record and the listeners to run. -/
def beginInvocation (gated : Bool) (current : β → Bool) (hook : HookRecord β) :
    Option (HookRecord β × List (ListenerRecord β)) :=
  (admitInvocation gated hook).map fun pinned => (pinned, enteredListeners current pinned)

/-- The critical section of `InvocationExited`: the record without the pin, and whether this exit
has to finish the unhook. -/
def invocationExited (hook : HookRecord β) : HookRecord β × Bool :=
  let left := { hook with inFlight := hook.inFlight - 1 }
  (left, left.inFlight = 0 ∧ left.state = .unhooking)

/-! ## Unhooking -/

/-- How the first section of `UnhookRecordLocked` ends: with a status, or with the record drained
of its listeners and whether its gate has to drain. -/
inductive UnhookStart (β : Type) where
  | done (result : Result Unit)
  | drain (hook : HookRecord β) (gatedDrain : Bool)

/-- The first section of `UnhookRecordLocked`. -/
def startUnhook (gated : Bool) (hook : HookRecord β) : UnhookStart β :=
  if hook.state = .unhooked then .done (.ok ())
  else if hook.state = .retired then
    .done (.error ⟨.unhookFailed, "hook target mapping is retired and cannot be safely unhooked"⟩)
  else if hook.state = .unhooking then .done (.ok ())
  else
    .drain { hook with state := .unhooking, active := false, listeners := [] }
      (gated && hook.backendInstalled)

/-- The record after a step of `FinishUnhookLocked` failed. -/
def failUnhook (hook : HookRecord β) : HookRecord β :=
  { hook with state := .failed }

/-- The record after its physical entry and its returns are restored. -/
def completeUnhook (hook : HookRecord β) : HookRecord β :=
  { hook with
    entryReady := false
    exceptionBridgeConsumer := false
    boundToCodeTarget := false
    state := .unhooked
    vmAdapterRetained := false }

/-- `CanDestroyLocked`. -/
def canDestroyLocked (hook : HookRecord β) : Bool :=
  hook.state = .unhooked && hook.inFlight = 0 && hook.listenerHandles = 0

/-- What the outside answers while an unhook finishes: whether a direct host binding can restore
anything, whether the host callback returned zero, and whether `RestoreArm64ReturnInterception`
succeeded. -/
structure UnhookOutcome where
  hostBound : Bool
  hostUnhook : Bool
  returnsRestored : Bool
  deriving DecidableEq, Repr

/-- The part of `FinishUnhookLocked` after the backend: the returns, then the record. -/
def finishReturns (hook : HookRecord β) (outcome : UnhookOutcome) : HookRecord β × Result Unit :=
  let inactive := { hook with active := false }
  if outcome.returnsRestored = false then
    (failUnhook inactive, .error ⟨.unhookFailed, "failed to restore Dart return interception"⟩)
  else (completeUnhook inactive, .ok ())

/-- `FinishUnhookLocked`, run by the holder of `State().mutex` with no other thread in between.
An unfinished drain returns OK and leaves the record unhooking. -/
def finishUnhookLocked (hook : HookRecord β) (published : Option PublishedHostHook)
    (outcome : UnhookOutcome) : HookRecord β × Option PublishedHostHook × Result Unit :=
  if hook.backendInstalled = false then
    let (finished, result) := finishReturns hook outcome
    (finished, published, result)
  else
    match published with
    | some gated =>
      let draining := beginDrainPublishedHostHook gated
      if hook.inFlight ≠ 0 then (hook, some draining, .ok ())
      else
        let (closed, isClosed) := closePublishedHostHook draining
        if isClosed = false then (hook, some closed, .ok ())
        else
          let (restored, uninstall) := uninstallPublishedHostHook closed outcome.hostUnhook
          let released := { hook with backendInstalled := restored.backendInstalled }
          match uninstall with
          | .error failure => (failUnhook released, some restored, .error failure)
          | .ok () =>
            let (finished, result) := finishReturns released outcome
            (finished, some restored, result)
    | none =>
      if hook.target = nullptr ∨ outcome.hostBound = false ∨ outcome.hostUnhook = false then
        (failUnhook hook, none, .error ⟨.unhookFailed, "host unhook function failed"⟩)
      else
        let (finished, result) := finishReturns { hook with backendInstalled := false } outcome
        (finished, none, result)

/-- `UnhookRecordLocked`, run by the holder of `State().mutex` with no other thread in between. -/
def unhookRecordLocked (hook : HookRecord β) (published : Option PublishedHostHook)
    (outcome : UnhookOutcome) : HookRecord β × Option PublishedHostHook × Result Unit :=
  match startUnhook published.isSome hook with
  | .done result => (hook, published, result)
  | .drain drained gatedDrain =>
    let draining := if gatedDrain then published.map beginDrainPublishedHostHook else published
    if drained.inFlight ≠ 0 then (drained, draining, .ok ())
    else finishUnhookLocked drained draining outcome

end DartPlant
