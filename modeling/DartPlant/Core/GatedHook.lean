import DartPlant.Core.HookRecord
import DartPlant.Lib.Runs
import Mathlib.Logic.Function.Basic

/-! # A gated hook under concurrent entry and unhook

One real-Dart hook, any number of CPUs trying to enter it, and the threads that take
`State().mutex` to unhook it.  An index of `ι` is one trip of a CPU through the entry, so the type
may be of any size.  A step is one atomic access to the gate word or one critical section of
`hook->mutex`; between two steps of the lock holder any number of CPU steps can happen.

`OwnerStep` is where the holder of `State().mutex` stands in `InstallCallbackHook`,
`UnhookRecordLocked`, `InvocationExited` and `FinishUnhookLocked`, with
`UninstallPublishedHostHook` inlined; each constructor is named after what is done next.  The host
callback and the return restoration are actions of their own, since the outside decides how they
end.  Every failure is followed to its end, so a later `removeHook` is a retry.

What the listeners do is left out here: an unhook empties the list, and an invocation enters a
listener or not without touching the gate or the counters.
-/

namespace DartPlant

/-- Where one trip through the entry stands. -/
inductive CpuPhase where
  /-- Not in the hook. -/
  | outside
  /-- Handed the callback entry with a gate pin, not yet counted by the record. -/
  | handed
  /-- Counted by the record, the gate pin not yet given back. -/
  | begun
  /-- Counted by the record only. -/
  | running
  /-- Runs the original with its gate pin kept for the life of the process. -/
  | retained
  /-- Left as the last one of an unhooking record and is on its way to `State().mutex`; `pinned` is
  whether its gate pin is kept. -/
  | finishing (pinned : Bool)
  /-- Runs the original with no pin at all. -/
  | untracked
  deriving DecidableEq, Repr

namespace CpuPhase

def HoldsEntrant : CpuPhase → Prop
  | handed | begun | retained | finishing true => True
  | _ => False

def CountedInFlight : CpuPhase → Prop
  | begun | running => True
  | _ => False

/-- Handed the callback entry and not yet through with the invocation. -/
def InsideHook : CpuPhase → Prop
  | outside | finishing false => False
  | _ => True

end CpuPhase

/-- What the holder of `State().mutex` does next. -/
inductive OwnerStep where
  | free
  | arm
  | unhookDrain (gatedDrain : Bool)
  | unhookIdle
  | exitRecheck
  | finishDrain
  | finishIdle
  | finishClose
  | finishRecheck
  | finishReopen
  | uninstall
  | uninstallClose
  | hostUnhook
  | uninstallReopen
  | uninstallBypass
  | finishPublish (restored : Bool)
  | restoreReturns
  deriving DecidableEq, Repr

/-- The record, its gate, the CPUs and the lock holder. -/
structure GatedHook (β ι : Type) where
  hook : HookRecord β
  published : PublishedHostHook
  cpu : ι → CpuPhase
  owner : OwnerStep

/-- The actions of the system. -/
inductive HookAction (ι : Type) where
  | owner
  | removeHook
  | hostUnhook (restored : Bool)
  | restoreReturns (restored : Bool)
  | acquire (i : ι)
  | retain (i : ι)
  | beginInvocation (i : ι)
  | releaseEntrant (i : ι)
  | exit (i : ι)
  | abandon (i : ι)
  | lockToFinish (i : ι)
  deriving DecidableEq, Repr

/-- The actions of a CPU in the hook; `lockToFinish` already belongs to the lock holder. -/
def HookAction.IsCpu {ι : Type} : HookAction ι → Prop
  | acquire _ | retain _ | beginInvocation _ | releaseEntrant _ | exit _ | abandon _ => True
  | _ => False

variable {β ι : Type}

/-- One step of the lock holder's own code. -/
def ownerStep (w : GatedHook β ι) : Option (GatedHook β ι) :=
  match w.owner with
  | .free | .hostUnhook | .restoreReturns => none
  | .arm => some { w with published := armPublishedHostHook w.published, owner := .free }
  | .unhookDrain gatedDrain =>
    some { w with
      published := if gatedDrain then beginDrainPublishedHostHook w.published else w.published
      owner := .unhookIdle }
  | .unhookIdle => some { w with owner := if w.hook.inFlight ≠ 0 then .free else .finishDrain }
  | .exitRecheck =>
    some { w with owner := if w.hook.state = .unhooking then .finishDrain else .free }
  | .finishDrain =>
    if w.hook.backendInstalled then
      some { w with
        published := beginDrainPublishedHostHook w.published
        owner := .finishIdle }
    else some { w with owner := .restoreReturns }
  | .finishIdle => some { w with owner := if w.hook.inFlight ≠ 0 then .free else .finishClose }
  | .finishClose =>
    let (published, closed) := closePublishedHostHook w.published
    some { w with published := published, owner := if closed then .finishRecheck else .free }
  | .finishRecheck =>
    some { w with owner := if w.hook.inFlight ≠ 0 then .finishReopen else .uninstall }
  | .finishReopen =>
    some { w with published := reopenPublishedHostHookDrain w.published, owner := .free }
  | .uninstall =>
    if w.published.backendInstalled = false then
      some { w with
        published := { w.published with gate := storeGateState w.published.gate .bypassTarget }
        owner := .finishPublish true }
    else if publishedHostHookEntrantsIdle w.published = false then
      some { w with owner := .finishPublish false }
    else some { w with owner := .uninstallClose }
  | .uninstallClose =>
    let (published, closed) := closePublishedHostHook w.published
    some { w with
      published := published
      owner :=
        if closed = false then .finishPublish false
        else if hostCanUnhook published then .hostUnhook else .uninstallReopen }
  | .uninstallReopen =>
    some { w with
      published := reopenPublishedHostHookDrain w.published
      owner := .finishPublish false }
  | .uninstallBypass =>
    some { w with
      published := { w.published with
        backendInstalled := false
        gate := storeGateState w.published.gate .bypassTarget }
      owner := .finishPublish true }
  | .finishPublish restored =>
    let released := { w.hook with backendInstalled := w.published.backendInstalled }
    if restored then some { w with hook := released, owner := .restoreReturns }
    else some { w with hook := failUnhook released, owner := .free }

variable [DecidableEq ι]

/-- Move one CPU. -/
def GatedHook.setCpu (w : GatedHook β ι) (i : ι) (phase : CpuPhase) : GatedHook β ι :=
  { w with cpu := Function.update w.cpu i phase }

/-- A CPU at the gate.  A route other than the callback passes the hook by. -/
def acquireStep (w : GatedHook β ι) (i : ι) : Option (GatedHook β ι) :=
  match acquirePublishedHostHookRoute w.published with
  | none => none
  | some (published, .callback true) =>
    some ({ w with published := published }.setCpu i .handed)
  | some (published, .callback false) =>
    some ({ w with published := published }.setCpu i .untracked)
  | some (published, _) => some { w with published := published }

/-- The dispatcher's `BeginInvocation`, and what it does with the gate pin when it is refused: the
pin of an entry whose backend is still installed is kept. -/
def beginStep (w : GatedHook β ι) (i : ι) : GatedHook β ι :=
  match admitInvocation true w.hook with
  | some hook => { w with hook := hook }.setCpu i .begun
  | none =>
    if w.hook.backendInstalled = false then
      { w with published := releasePublishedHostHookEntrant w.published }.setCpu i .untracked
    else w.setCpu i .retained

/-- The critical section of `InvocationExited`; `pinned` is whether the gate pin is kept. -/
def exitStep (w : GatedHook β ι) (i : ι) (pinned : Bool) : GatedHook β ι :=
  let (hook, finishUnhook) := invocationExited w.hook
  { w with hook := hook }.setCpu i
    (if finishUnhook then .finishing pinned else if pinned then .retained else .outside)

/-- One step of the system, `none` when the action is not enabled.

`retain` is the dispatcher without per-thread storage or at its depth limit; `abandon` is the
dispatcher that cannot set up its bridges after `BeginInvocation` and gives the record's pin back
but keeps the gate's.  `lockToFinish` is the second half of `InvocationExited`; the thread is the
lock holder from then on. -/
def hookStep (w : GatedHook β ι) : HookAction ι → Option (GatedHook β ι)
  | .owner => ownerStep w
  | .removeHook =>
    if w.owner = .free then
      match startUnhook true w.hook with
      | .done _ => some w
      | .drain hook gatedDrain => some { w with hook := hook, owner := .unhookDrain gatedDrain }
    else none
  | .hostUnhook restored =>
    if w.owner = .hostUnhook then
      some { w with owner := if restored then .uninstallBypass else .uninstallReopen }
    else none
  | .restoreReturns restored =>
    if w.owner = .restoreReturns then
      some { w with hook := (finishReturns w.hook ⟨true, true, restored⟩).1, owner := .free }
    else none
  | .acquire i => if w.cpu i = .outside then acquireStep w i else none
  | .retain i => if w.cpu i = .handed then some (w.setCpu i .retained) else none
  | .beginInvocation i => if w.cpu i = .handed then some (beginStep w i) else none
  | .releaseEntrant i =>
    if w.cpu i = .begun then
      some ({ w with published := releasePublishedHostHookEntrant w.published }.setCpu i .running)
    else none
  | .exit i => if w.cpu i = .running then some (exitStep w i false) else none
  | .abandon i => if w.cpu i = .begun then some (exitStep w i true) else none
  | .lockToFinish i =>
    match w.cpu i with
    | .finishing pinned =>
      if w.owner = .free then
        some ({ w with owner := .exitRecheck }.setCpu i (if pinned then .retained else .outside))
      else none
    | _ => none

/-- The state `InstallCallbackHook` reaches just before it arms the gate: the gate was prepared for
a tracked entry and installed with a backup, the record is installed, and no CPU has entered. -/
structure Installed (w : GatedHook β ι) : Prop where
  gate : ∃ binding target callbackEntry testingGateEntry stub host backup prepared,
    preparePublishedHostHook .fresh binding target callbackEntry true testingGateEntry stub =
        (prepared, .ok ()) ∧
      installPublishedHostHook prepared host = (w.published, .ok backup)
  hasMethod : w.hook.hasMethod = true
  state : w.hook.state = .installed
  idle : w.hook.inFlight = 0
  backendInstalled : w.hook.backendInstalled = true
  outside : ∀ i, w.cpu i = .outside
  owner : w.owner = .arm

/-- A gate prepared for a strict host and installed with a backup. -/
def installedGate : PublishedHostHook :=
  (installPublishedHostHook
    (preparePublishedHostHook .fresh (some ⟨false, true, true, .strict⟩) 0x1000 0x2000 true 0x3000
      (nullptr, 0)).1 ⟨0, [0x4000], nullptr⟩).1

/-- That gate's record with two CPUs about to enter. -/
def twoCpuHook : GatedHook Unit (Fin 2) where
  hook := {
    target := 0x1000
    hasMethod := true
    sharedCodeOptIn := false
    state := .installed
    active := true
    inFlight := 0
    backendInstalled := true
    entryReady := true
    exceptionBridgeConsumer := true
    boundToCodeTarget := true
    vmAdapterRetained := false
    nextListenerId := 1
    nextRegistrationOrder := 1
    listenerHandles := 0
    listeners := [] }
  published := installedGate
  cpu := fun _ => .outside
  owner := .arm

theorem twoCpuHook_installed : Installed twoCpuHook where
  gate := ⟨some ⟨false, true, true, .strict⟩, 0x1000, 0x2000, 0x3000, (nullptr, 0),
    ⟨0, [0x4000], nullptr⟩, 0x4000, _, rfl, rfl⟩
  hasMethod := rfl
  state := rfl
  idle := rfl
  backendInstalled := rfl
  outside := fun _ => rfl
  owner := rfl

/-- An unhook is requested while a CPU runs the original; the CPU leaves and finishes the unhook up
to the call of the host. -/
def unhookSchedule : List (HookAction (Fin 2)) :=
  [.owner, .acquire 0, .beginInvocation 0, .removeHook, .owner, .releaseEntrant 0, .owner,
    .exit 0, .lockToFinish 0, .owner, .owner, .owner, .owner, .owner, .owner, .owner]

end DartPlant
