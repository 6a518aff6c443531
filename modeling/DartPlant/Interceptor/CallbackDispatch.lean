import DartPlant.Core.ListenerSchedule
import Mathlib.Logic.Function.Basic

/-! # Callback dispatch

Every thread has a dispatch stack.  The entry of a hooked function pushes a frame, `BeginInvocation`
pins the hook record and every listener of the frame for it, and the frame is released when its
activation returns, is unwound, or cannot be set up.

A dispatch is cut where other code runs: between `BeginInvocation` and the bridges, at every
callback, and before the release.  In between, the other threads go on, and the Dart code that a
callback calls is dispatched on the same stack.  What the dispatcher asks of other components is
an argument: the receipts of a listener, the bridges, the scopes, whether the code became shared.
Their fatal failures stop the process and are left out, and so are the registers and roots of a
frame, which no counter and no match depends on.

A listener record is shared by the hook and the frames that entered it; `listenerInFlight` is its
counter, found by its id.
-/

namespace DartPlant

def kMaxInvocationDepth : Nat := 64

/-- A hook of the registry, with what dispatch reads besides its record: whether its method is a
Dart function of a runtime, and the payload whose returns are intercepted. -/
structure DispatchHook (β : Type) where
  registry : ListenerWorld β
  realDart : Bool
  payload : Address

namespace DispatchHook
variable {β : Type} (hook : DispatchHook β)

def record : HookRecord β := hook.registry.hook

def gated : Bool := hook.registry.published.isSome

def gatedRealDart : Bool := hook.realDart && hook.gated

/-- `ReleasePublishedHostHookEntrant`. -/
def releaseEntrant : DispatchHook β :=
  { hook with registry := { hook.registry with
      published := hook.registry.published.map releasePublishedHostHookEntrant } }

/-- The critical section of `InvocationExited`; an exit that has to finish the unhook is on its way
to `State().mutex`. -/
def exitInvocation : DispatchHook β :=
  { hook with registry := { hook.registry with
      hook := (invocationExited hook.record).1
      finishing := if (invocationExited hook.record).2 then hook.registry.finishing + 1
        else hook.registry.finishing } }

end DispatchHook

/-- Where a frame stands: its invocation began, `count` of its enter callbacks were called, the
original runs, or its leave or exception callbacks run. -/
inductive DispatchPhase where
  | begun
  | entering (count : Nat)
  | original
  | leaving
  | unwinding
  deriving DecidableEq, Repr

/-- A frame.  A native fixture whose invocation is refused keeps a frame without a hook. -/
structure DispatchFrame (β H : Type) where
  hook : Option H
  physicalReturnPayload : Address
  returnLr : Address
  entrySpreg : Address
  entryCallerFp : Address
  invokeOriginalNativeFrame : Address := nullptr
  enteredListeners : List (ListenerRecord β) := []
  generatedVmBridgeActive : Bool := false
  phase : DispatchPhase

/-- The registers of the entry that a frame keeps: LR, SPREG and the FP of the caller. -/
structure EntryContext where
  lr : Address
  spreg : Address
  callerFp : Address
  deriving DecidableEq, Repr

/-- The context a dispatch hands back: the one it was given, or its frame's. -/
inductive DispatchContext where
  | entry
  | frame
  deriving DecidableEq, Repr

/-- What the bridge goes on with. -/
inductive OriginalRoute where
  | backup
  | codeTarget
  deriving DecidableEq, Repr

/-- `DartPlantArm64DispatchResult`; without an original the bridge returns to the caller. -/
structure DispatchResult where
  context : Option DispatchContext := none
  original : Option OriginalRoute := none
  deriving DecidableEq, Repr

/-- What a dispatch finds after `BeginInvocation`: whether the owner of a listener is the current
isolate group, whether two listeners have the same execution binding, whether a listener has an
adapter, whether the code is shared, and whether the generated bridge, the scope and the exception
bridge could be entered. -/
structure SetupReading (β : Type) where
  ownerMatches : β → Bool
  sameBinding : β → β → Bool
  hasAdapter : β → Bool
  identityAmbiguous : Bool
  bridgeEntered : Bool
  scopeEntered : Bool
  exceptionBridge : Bool

/-- The hooks, the counters of their listeners, and the stack of every thread, its newest frame
first. -/
structure DispatchWorld (β H T : Type) where
  hooks : H → DispatchHook β
  listenerInFlight : H → Nat → Nat
  stack : T → List (DispatchFrame β H)

/-- `FilterListenersForCurrentIsolateGroup`: the listeners that stay entered, and the others. -/
def SetupReading.filterOwners {β : Type} (reading : SetupReading β)
    (listeners : List (ListenerRecord β)) : List (ListenerRecord β) × List (ListenerRecord β) :=
  listeners.partition fun listener => reading.ownerMatches listener.binding

/-- `BindInvocationToCurrentOwner`: the listeners bound as the first one, and the others. -/
def SetupReading.bindOwner {β : Type} (reading : SetupReading β)
    (listeners : List (ListenerRecord β)) : List (ListenerRecord β) × List (ListenerRecord β) :=
  match listeners with
  | [] => ([], [])
  | first :: _ => listeners.partition fun listener =>
    reading.sameBinding first.binding listener.binding

namespace DispatchWorld
variable {β H T : Type}

def setStack [DecidableEq T] (world : DispatchWorld β H T) (thread : T)
    (frames : List (DispatchFrame β H)) : DispatchWorld β H T :=
  { world with stack := Function.update world.stack thread frames }

@[simp] theorem setStack_self [DecidableEq T] {world : DispatchWorld β H T} {thread : T}
    {frames : List (DispatchFrame β H)} : (world.setStack thread frames).stack thread = frames :=
  Function.update_self ..

section Hooks
variable [DecidableEq H] (world : DispatchWorld β H T)

def setHook (hook : H) (after : DispatchHook β) : DispatchWorld β H T :=
  { world with hooks := Function.update world.hooks hook after }

def setListenerInFlight (hook : H) (id count : Nat) : DispatchWorld β H T :=
  { world with
    listenerInFlight := Function.update world.listenerInFlight hook
      (Function.update (world.listenerInFlight hook) id count) }

/-- Every listener gets one more entrant. -/
def enterListeners (hook : H) : List (ListenerRecord β) → DispatchWorld β H T → DispatchWorld β H T
  | [], world => world
  | listener :: rest, world => enterListeners hook rest
      (world.setListenerInFlight hook listener.id (world.listenerInFlight hook listener.id + 1))

/-- Every listener loses an entrant. -/
def leaveListeners (hook : H) : List (ListenerRecord β) → DispatchWorld β H T → DispatchWorld β H T
  | [], world => world
  | listener :: rest, world => leaveListeners hook rest
      (world.setListenerInFlight hook listener.id (world.listenerInFlight hook listener.id - 1))

def exitInvocation (hook : H) : DispatchWorld β H T :=
  world.setHook hook (world.hooks hook).exitInvocation

def releaseEntrant (hook : H) : DispatchWorld β H T :=
  world.setHook hook (world.hooks hook).releaseEntrant

end Hooks

variable [DecidableEq T] (world : DispatchWorld β H T)

/-- The next enter callback is called. -/
def enterCallback (thread : T) : DispatchWorld β H T :=
  match world.stack thread with
  | [] => world
  | frame :: rest =>
    match frame.phase with
    | .entering count =>
      if count < frame.enteredListeners.length then
        world.setStack thread ({ frame with phase := .entering (count + 1) } :: rest)
      else world
    | _ => world

variable [DecidableEq H]

/-- `ReleaseSnapshot` of the frame on top, and the frame is popped. -/
def releaseFrame (thread : T) : DispatchWorld β H T :=
  match world.stack thread with
  | [] => world
  | frame :: rest =>
    match frame.hook with
    | none => world.setStack thread rest
    | some hook =>
      ((leaveListeners hook frame.enteredListeners world).exitInvocation hook).setStack thread rest

/-! ## Entry -/

/-- `dartplant_arm64_dispatch_enter` to the end of `BeginInvocation`; without a result the dispatch
goes on.  `storage` is whether the thread has a stack, `current` the receipt check of a listener. -/
def beginDispatch (thread : T) (hook : H) (context : EntryContext) (storage : Bool)
    (current : β → Bool) : DispatchWorld β H T × Option DispatchResult :=
  let entry := world.hooks hook
  let frame : DispatchFrame β H :=
    { hook := none
      physicalReturnPayload := entry.payload
      returnLr := context.lr
      entrySpreg := context.spreg
      entryCallerFp := context.callerFp
      phase := .original }
  if entry.record.hasMethod = false then (world, some {})
  else if entry.record.active = false ∧ entry.gatedRealDart = false then
    (world, some ⟨some .entry, some (if entry.record.backendInstalled then .backup
      else .codeTarget)⟩)
  else if storage = false ∨ (world.stack thread).length ≥ kMaxInvocationDepth then
    (if entry.gatedRealDart then world else world.releaseEntrant hook,
      some ⟨some .entry, some .backup⟩)
  else
    match beginInvocation entry.gated current entry.record with
    | none =>
      -- The entrant of an entry whose backend is still installed is kept for good.
      let released := if entry.gatedRealDart = false ∨ entry.record.backendInstalled = false then
        world.releaseEntrant hook else world
      (if entry.realDart then released
        else released.setStack thread (frame :: released.stack thread),
        some ⟨some .frame, some .backup⟩)
    | some (pinned, listeners) =>
      let begun := world.setHook hook
        { entry with registry := { entry.registry with hook := pinned } }
      ((enterListeners hook listeners begun).setStack thread
        ({ frame with hook := some hook, enteredListeners := listeners, phase := .begun } ::
          world.stack thread), none)

/-- The dispatch after `BeginInvocation`, up to the enter callbacks: the listeners are filtered and
the bridges entered.  Whatever cannot be set up runs the original without a frame. -/
def setupDispatch (thread : T) (reading : SetupReading β) :
    DispatchWorld β H T × Option DispatchResult :=
  match world.stack thread with
  | [] => (world, none)
  | frame :: rest =>
    match frame.hook with
    | none => (world, none)
    | some hook =>
      let entry := world.hooks hook
      let (owned, foreign) := reading.filterOwners frame.enteredListeners
      let (admitted, unbound) := reading.bindOwner owned
      let filtered := (leaveListeners hook unbound (leaveListeners hook foreign world)).setStack
        thread ({ frame with enteredListeners := admitted } :: rest)
      let lateShared := reading.identityAmbiguous && !entry.record.sharedCodeOptIn
      let bridged := !admitted.isEmpty && !lateShared &&
        (admitted.head?.any fun listener => reading.hasAdapter listener.binding)
      if bridged && entry.realDart && !reading.bridgeEntered then
        (filtered.releaseFrame thread, some ⟨some .frame, some .backup⟩)
      else if bridged && !entry.realDart && !reading.scopeEntered then
        (filtered.releaseFrame thread, some ⟨some .frame, some .backup⟩)
      else if entry.realDart && !reading.exceptionBridge then
        (filtered.releaseFrame thread, some ⟨some .frame, some .backup⟩)
      else
        let handed := if entry.gatedRealDart then filtered.releaseEntrant hook else filtered
        if lateShared then
          -- The hook stays pinned until the original returns; no callback runs.
          ((leaveListeners hook admitted handed).setStack thread
            ({ frame with enteredListeners := [], phase := .original } :: rest),
            some ⟨some .frame, some .backup⟩)
        else
          (handed.setStack thread ({ frame with
            enteredListeners := admitted
            generatedVmBridgeActive := bridged && entry.realDart
            phase := .entering 0 } :: rest), none)

/-- The dispatch after its enter callbacks, `count` of which were called: the other listeners are
dropped, and the generated bridge is left.  A skipped original goes straight on to the leave
callbacks, without a result yet. -/
def finishEnter (thread : T) (count : Nat) (skipOriginal bridgeLeft : Bool) :
    DispatchWorld β H T × Option DispatchResult :=
  match world.stack thread with
  | [] => (world, none)
  | frame :: rest =>
    match frame.hook with
    | none => (world, none)
    | some hook =>
      let entered := { frame with enteredListeners := frame.enteredListeners.take count }
      let trimmed := leaveListeners hook (frame.enteredListeners.drop count) world
      if frame.generatedVmBridgeActive && !bridgeLeft then
        ((trimmed.setStack thread (entered :: rest)).releaseFrame thread,
          some ⟨some .frame, if skipOriginal then none else some .backup⟩)
      else if skipOriginal then
        (trimmed.setStack thread ({ entered with
          generatedVmBridgeActive := false, phase := .leaving } :: rest), none)
      else
        (trimmed.setStack thread ({ entered with
          generatedVmBridgeActive := false, phase := .original } :: rest),
          some ⟨some .frame, some .backup⟩)

/-! ## Return -/

end DispatchWorld

/-- The return is the one of this frame's activation. -/
def DispatchFrame.matchesReturn {β H : Type} (frame : DispatchFrame β H) (payload : Address)
    (returned : EntryContext) : Bool :=
  frame.physicalReturnPayload != nullptr && frame.physicalReturnPayload == payload &&
    frame.returnLr == returned.lr && frame.entrySpreg == returned.spreg &&
    frame.entryCallerFp == returned.callerFp

/-- The activation of the frame is above the frame of the handler. -/
def DispatchFrame.unwoundBy {β H : Type} (frame : DispatchFrame β H)
    (targetSpreg targetFp : Address) : Bool :=
  let byFp := frame.entryCallerFp != 0 && targetFp != 0 && decide (targetFp ≥ frame.entryCallerFp)
  let bySp := frame.entrySpreg != 0 && targetSpreg != 0 && decide (targetSpreg > frame.entrySpreg)
  byFp || bySp

/-- `DartPlantArm64ReturnDispatchResult`: the return is not ours, resumes the native frame that
invoked the original, or finishes the frame on top. -/
inductive ReturnDispatch where
  | passthrough
  | resumeNative (nativeSp : Address)
  | finish
  deriving DecidableEq, Repr

namespace DispatchWorld
variable {β H T : Type} [DecidableEq T] (world : DispatchWorld β H T)

/-- `dartplant_arm64_prepare_invoke_original_frame`. -/
def prepareInvokeOriginal (thread : T) (nativeFrameSp : Address) : DispatchWorld β H T :=
  match world.stack thread with
  | [] => world
  | frame :: rest =>
    if nativeFrameSp = 0 ∨ frame.invokeOriginalNativeFrame ≠ 0 then world
    else world.setStack thread ({ frame with invokeOriginalNativeFrame := nativeFrameSp } :: rest)

/-- `FinishFrame` on the frame on top, up to its leave callbacks. -/
def beginFinish (thread : T) : DispatchWorld β H T :=
  match world.stack thread with
  | [] => world
  | frame :: rest => world.setStack thread ({ frame with phase := .leaving } :: rest)

/-- `dartplant_arm64_dispatch_return_from_payload`, up to the leave callbacks. -/
def beginReturn (thread : T) (payload : Address) (returned : EntryContext) :
    DispatchWorld β H T × ReturnDispatch :=
  match world.stack thread with
  | [] => (world, .passthrough)
  | frame :: rest =>
    if frame.matchesReturn payload returned = false then (world, .passthrough)
    else if frame.invokeOriginalNativeFrame ≠ 0 then
      (world.setStack thread ({ frame with invokeOriginalNativeFrame := 0 } :: rest),
        .resumeNative frame.invokeOriginalNativeFrame)
    else (world.beginFinish thread, .finish)

/-- One turn of the loop of `dartplant_arm64_dispatch_exception_unwind`, up to the exception
callbacks. -/
def beginUnwind (thread : T) (targetSpreg targetFp : Address) : DispatchWorld β H T :=
  match world.stack thread with
  | [] => world
  | frame :: rest =>
    if (targetSpreg = 0 ∧ targetFp = 0) ∨ frame.unwoundBy targetSpreg targetFp = false then world
    else world.setStack thread ({ frame with phase := .unwinding } :: rest)

/-- The loop of `dartplant_arm64_dispatch_exception_unwind`, with its exception callbacks and
`AbandonFrame`; a turn pops a frame, so it ends. -/
def unwindLoop [DecidableEq H] (thread : T) (targetSpreg targetFp : Address) :
    Nat → DispatchWorld β H T → DispatchWorld β H T
  | 0, world => world
  | turns + 1, world =>
    match world.stack thread with
    | [] => world
    | frame :: _ =>
      if frame.unwoundBy targetSpreg targetFp then
        unwindLoop thread targetSpreg targetFp turns
          ((world.beginUnwind thread targetSpreg targetFp).releaseFrame thread)
      else world

/-- `dartplant_arm64_dispatch_exception_unwind`. -/
def dispatchExceptionUnwind [DecidableEq H] (thread : T) (targetSpreg targetFp : Address) :
    DispatchWorld β H T :=
  if targetSpreg = 0 ∧ targetFp = 0 then world
  else unwindLoop thread targetSpreg targetFp (world.stack thread).length world

end DispatchWorld

/-! ## The system -/

/-- What happens next: a registry operation on a hook, or a thread at its frame on top. -/
inductive DispatchAction (β H T : Type) where
  | registry (hook : H) (op : ListenerOp β)
  | enter (thread : T) (hook : H) (context : EntryContext) (storage : Bool) (current : β → Bool)
  | setup (thread : T) (reading : SetupReading β)
  | enterCallback (thread : T)
  | finishEnter (thread : T) (skipOriginal identityAmbiguous bridgeLeft : Bool)
  | prepareInvokeOriginal (thread : T) (nativeFrameSp : Address)
  | returnFromPayload (thread : T) (payload : Address) (returned : EntryContext)
  | leaveFromTls (thread : T)
  | exceptionUnwind (thread : T) (targetSpreg targetFp : Address)
  | release (thread : T)

section System
variable {β H T : Type} [DecidableEq H] [DecidableEq T]

/-- The enter callbacks end: one skipped the original, or there is none left to call, or the code
became shared without an opt-in. -/
def entersDone (world : DispatchWorld β H T) (frame : DispatchFrame β H)
    (skipOriginal identityAmbiguous : Bool) (count : Nat) : Bool :=
  if skipOriginal then count != 0
  else count == frame.enteredListeners.length ||
    (identityAmbiguous && frame.hook.any fun hook => !(world.hooks hook).record.sharedCodeOptIn)

/-- A registry operation; the counter of a new listener record is zero.  The invocations themselves
begin and end in dispatch. -/
def registryStep (world : DispatchWorld β H T) (hook : H) (op : ListenerOp β) :
    DispatchWorld β H T :=
  let entry := world.hooks hook
  match op with
  | .enter => world
  | .exit => world
  | .add request =>
    let added := world.setHook hook { entry with registry := applyListenerOp entry.registry op }
    match (addCallbackListenerForMethod entry.record request).2 with
    | .ok id => added.setListenerInFlight hook id 0
    | .error _ => added
  | op => world.setHook hook { entry with registry := applyListenerOp entry.registry op }

/-- One step; an action that is not due does nothing. -/
def dispatchStep (world : DispatchWorld β H T) : DispatchAction β H T → DispatchWorld β H T
  | .registry hook op => registryStep world hook op
  | .enter thread hook context storage current =>
    (world.beginDispatch thread hook context storage current).1
  | .setup thread reading =>
    match (world.stack thread).head?.map DispatchFrame.phase with
    | some .begun => (world.setupDispatch thread reading).1
    | _ => world
  | .enterCallback thread => world.enterCallback thread
  | .finishEnter thread skipOriginal identityAmbiguous bridgeLeft =>
    match world.stack thread with
    | [] => world
    | frame :: _ =>
      match frame.phase with
      | .entering count =>
        if entersDone world frame skipOriginal identityAmbiguous count then
          (world.finishEnter thread count skipOriginal bridgeLeft).1
        else world
      | _ => world
  | .prepareInvokeOriginal thread nativeFrameSp => world.prepareInvokeOriginal thread nativeFrameSp
  | .returnFromPayload thread payload returned => (world.beginReturn thread payload returned).1
  | .leaveFromTls thread => world.beginFinish thread
  | .exceptionUnwind thread targetSpreg targetFp => world.beginUnwind thread targetSpreg targetFp
  | .release thread =>
    match (world.stack thread).head?.map DispatchFrame.phase with
    | some .leaving => world.releaseFrame thread
    | some .unwinding => world.releaseFrame thread
    | _ => world

end System

end DartPlant
