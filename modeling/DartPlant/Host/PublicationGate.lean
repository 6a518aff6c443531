import DartPlant.Core.Status
import DartPlant.Lib.PackedWord

/-! # The host publication gate

A real-Dart hook is published through a gate: one 64-bit word holds the gate state in its low half
and, in its high half, the number of CPUs that were handed the callback entry and have not yet
passed their pin on to the hook record.  Every operation below is one compare-and-swap loop of the
source.  A loop retries until its own read is still current, so each is one atomic step on the word;
the loops that leave without a store leave on one load, which is the same step with nothing written.

The states of the word are compared as 32-bit values, as the code compares them.  What each
operation does to a word that encodes a state and a count is in `DartPlant.Host.GateLaws`.
-/

namespace DartPlant
open PackedWord

inductive HostPublicationPolicy where
  | conservative
  | strict
  | localGate
  deriving DecidableEq, Repr

inductive HostPublicationGateState where
  | installing
  | armed
  | draining
  | bypassTarget
  | bypassBackup
  | failed
  | closed
  deriving DecidableEq, Repr

/-- The enumerator's value in the low half of the control word. -/
def HostPublicationGateState.toWord : HostPublicationGateState → BitVec 32
  | installing => 0
  | armed => 1
  | draining => 2
  | bypassTarget => 3
  | bypassBackup => 4
  | failed => 5
  | closed => 6

/-- The word and the three addresses the gate stub reads. -/
structure HostPublicationGate where
  control : BitVec 64
  callbackEntry : Address
  backup : Address
  target : Address
  deriving DecidableEq, Repr

/-- A host binding: which of its callbacks are present, and its publication policy. -/
structure HostApiBinding where
  hook : Bool
  unhook : Bool
  hookWithPublication : Bool
  publicationPolicy : HostPublicationPolicy
  deriving DecidableEq, Repr

structure PublishedHostHook where
  gate : HostPublicationGate
  binding : Option HostApiBinding
  target : Address
  gateEntry : Address
  gateEntrySize : Nat
  trackGeneratedEntrants : Bool
  backendInstalled : Bool
  everPublished : Bool
  deriving DecidableEq, Repr

/-- A published hook as its default member initialisers build it. -/
def PublishedHostHook.fresh : PublishedHostHook where
  gate := {
    control := HostPublicationGateState.installing.toWord.setWidth 64
    callbackEntry := nullptr
    backup := nullptr
    target := nullptr }
  binding := none
  target := nullptr
  gateEntry := nullptr
  gateEntrySize := 0
  trackGeneratedEntrants := false
  backendInstalled := false
  everPublished := false

def encodeGateControl (state : HostPublicationGateState) (entrants : BitVec 32) : BitVec 64 :=
  (entrants.setWidth 64 <<< 32) ||| state.toWord.setWidth 64

/-- The low half of the word as `LoadGateState` reads it. -/
def loadGateState (gate : HostPublicationGate) : BitVec 32 :=
  (gate.control &&& lowMask).setWidth 32

def storeGateState (gate : HostPublicationGate) (state : HostPublicationGateState) :
    HostPublicationGate :=
  { gate with control := (gate.control &&& ~~~lowMask) ||| state.toWord.setWidth 64 }

def hostBindingSupportsPublishedHooks (binding : HostApiBinding) : Bool :=
  match binding.publicationPolicy with
  | .strict => binding.hookWithPublication
  | .localGate => binding.hook
  | .conservative => false

/-! ## Preparation and installation -/

/-- Prepare the gate for one target.  `stub` is what `CreateArm64HostPublicationGateStub` returned,
an entry and its size; it is called only when no testing entry is given. -/
def preparePublishedHostHook (published : PublishedHostHook) (binding : Option HostApiBinding)
    (target callbackEntry : Address) (trackGeneratedEntrants : Bool) (testingGateEntry : Address)
    (stub : Address × Nat) : PublishedHostHook × Result Unit :=
  match binding with
  | none =>
    (published, .error ⟨.unsupportedAbi,
      "published host hook arguments or host publication policy are invalid"⟩)
  | some host =>
    if target = nullptr ∨ callbackEntry = nullptr ∨ host.unhook = false ∨
        hostBindingSupportsPublishedHooks host = false then
      (published, .error ⟨.unsupportedAbi,
        "published host hook arguments or host publication policy are invalid"⟩)
    else
      let prepared := { published with
        binding := some host
        target := target
        trackGeneratedEntrants := trackGeneratedEntrants
        gate := {
          control := encodeGateControl .installing 0
          callbackEntry := callbackEntry
          backup := nullptr
          target := target } }
      if testingGateEntry ≠ nullptr then
        ({ prepared with gateEntry := testingGateEntry, gateEntrySize := 0 }, .ok ())
      else
        let withStub := { prepared with gateEntry := stub.1, gateEntrySize := stub.2 }
        if stub.1 = nullptr then
          (withStub, .error ⟨.hookFailed, "failed to allocate ARM64 host publication gate"⟩)
        else
          (withStub, .ok ())

def hostHookFailedNeverPublished : Int := -1

def hostHookFailedAfterPublished : Int := -2

def hostHookFailedRecoveryRequired : Int := -3

/-- What the host did with one hook call: its status, the backups a strict host passed to
`backup_ready` in order, and the backup a legacy host stored through its out parameter. -/
structure HostHookOutcome where
  status : Int
  readyBackups : List Address
  backup : Address
  deriving DecidableEq, Repr

/-- The gate's backup after the `backup_ready` calls: a null one is ignored. -/
def backupReady (backup : Address) (readyBackups : List Address) : Address :=
  readyBackups.foldl (fun current ready => if ready = nullptr then current else ready) backup

/-- The backend call: the gate's backup after it, the backup the installer saw, and the status.  Only
the strict and the local-gate policies make a call. -/
def hostHookCall (policy : HostPublicationPolicy) (gateBackup : Address)
    (host : HostHookOutcome) : Address × Address × Int :=
  match policy with
  | .strict =>
    let ready := backupReady gateBackup host.readyBackups
    (ready, ready, host.status)
  | .localGate => (host.backup, host.backup, host.status)
  | .conservative => (gateBackup, nullptr, hostHookFailedNeverPublished)

/-- What a failed backend call leaves behind. -/
def failedHostHook (policy : HostPublicationPolicy) (called : PublishedHostHook)
    (backup : Address) (status : Int) : PublishedHostHook :=
  if policy = .strict ∧ status = hostHookFailedRecoveryRequired then
    -- The replacement may still be reachable: stale fetches take the original, or block without one.
    { called with
      everPublished := true
      backendInstalled := true
      gate := if backup ≠ nullptr then storeGateState called.gate .bypassBackup else called.gate }
  else if policy = .strict ∧ status = hostHookFailedAfterPublished then
    { called with
      everPublished := true
      backendInstalled := false
      gate := storeGateState called.gate .bypassTarget }
  else { called with gate := storeGateState called.gate .failed }

/-- Install the prepared gate through its host.  The second component is the status with, on
success, the backup stored through `out_backup`. -/
def installPublishedHostHook (published : PublishedHostHook) (host : HostHookOutcome) :
    PublishedHostHook × Result Address :=
  match published.binding with
  | none => (published, .error ⟨.invalidArgument, "published host hook is not prepared"⟩)
  | some binding =>
    if published.gateEntry = nullptr ∨ published.target = nullptr then
      (published, .error ⟨.invalidArgument, "published host hook is not prepared"⟩)
    else
      let call := hostHookCall binding.publicationPolicy published.gate.backup host
      let called := { published with gate := { published.gate with backup := call.1 } }
      let backup := call.2.1
      let status := call.2.2
      if status ≠ 0 then
        (failedHostHook binding.publicationPolicy called backup status, .error ⟨.hookFailed,
          "host hook function failed during published hook installation"⟩)
      else if backup = nullptr then
        ({ called with backendInstalled := true, everPublished := true },
          .error ⟨.hookFailed, "host hook succeeded without an original trampoline"⟩)
      else
        ({ called with
            gate := { called.gate with backup := backup }
            backendInstalled := true
            everPublished := true }, .ok backup)

/-! ## The owner's steps -/

def armPublishedHostHook (published : PublishedHostHook) : PublishedHostHook :=
  if published.backendInstalled = false ∨ published.gate.backup = nullptr then published
  else { published with gate := storeGateState published.gate .armed }

def bypassPublishedHostHookToBackup (published : PublishedHostHook) : PublishedHostHook :=
  if published.gate.backup = nullptr then published
  else { published with gate := storeGateState published.gate .bypassBackup }

def beginDrainPublishedHostHook (published : PublishedHostHook) : PublishedHostHook :=
  if published.backendInstalled = false then published
  else
    let state := low published.gate.control
    if state = HostPublicationGateState.draining.toWord ∨
        state = HostPublicationGateState.closed.toWord then published
    else if state ≠ HostPublicationGateState.armed.toWord then published
    else { published with gate := { published.gate with
      control := (published.gate.control &&& ~~~lowMask) |||
        HostPublicationGateState.draining.toWord.setWidth 64 } }

/-- Close an idle gate for physical unhook. -/
def closePublishedHostHook (published : PublishedHostHook) : PublishedHostHook × Bool :=
  if published.backendInstalled = false then (published, false)
  else
    let current := published.gate.control
    let state := low current
    if state = HostPublicationGateState.closed.toWord then (published, current >>> 32 = 0#64)
    else if state ≠ HostPublicationGateState.draining.toWord ∧
        state ≠ HostPublicationGateState.installing.toWord ∧
        state ≠ HostPublicationGateState.bypassBackup.toWord then (published, false)
    else if current >>> 32 ≠ 0#64 then (published, false)
    else ({ published with gate := { published.gate with
      control := HostPublicationGateState.closed.toWord.setWidth 64 } }, true)

def reopenPublishedHostHookDrain (published : PublishedHostHook) : PublishedHostHook :=
  if published.backendInstalled = false then published
  else if published.gate.control = HostPublicationGateState.closed.toWord.setWidth 64 then
    { published with gate := { published.gate with
      control := HostPublicationGateState.draining.toWord.setWidth 64 } }
  else published

def publishedHostHookEntrantCount (published : PublishedHostHook) : BitVec 32 :=
  (published.gate.control >>> 32).setWidth 32

def publishedHostHookEntrantsIdle (published : PublishedHostHook) : Bool :=
  publishedHostHookEntrantCount published = 0

def hostCanUnhook (published : PublishedHostHook) : Bool :=
  match published.binding with
  | none => false
  | some binding => binding.unhook

/-- Restore the target through the host.  `hostUnhook` is whether the host callback returned zero;
it is called only on a closed gate. -/
def uninstallPublishedHostHook (published : PublishedHostHook) (hostUnhook : Bool) :
    PublishedHostHook × Result Unit :=
  if published.backendInstalled = false then
    ({ published with gate := storeGateState published.gate .bypassTarget }, .ok ())
  else if publishedHostHookEntrantsIdle published = false then
    (published, .error ⟨.vmAdapterBusy, "published host hook still has entry handoff pins"⟩)
  else
    let (closed, isClosed) := closePublishedHostHook published
    if isClosed = false then
      (closed, .error ⟨.vmAdapterBusy, "published host hook is not closed for physical unhook"⟩)
    else if hostCanUnhook closed = false ∨ hostUnhook = false then
      (reopenPublishedHostHookDrain closed,
        .error ⟨.unhookFailed, "host unhook function failed"⟩)
    else
      ({ closed with
          backendInstalled := false
          gate := storeGateState closed.gate .bypassTarget }, .ok ())

/-! ## The entrants' steps -/

def releasePublishedHostHookEntrant (published : PublishedHostHook) : PublishedHostHook :=
  if published.trackGeneratedEntrants = false then published
  else if published.gate.control >>> 32 = 0#64 then published
  else { published with gate := { published.gate with
    control := published.gate.control - highOne } }

/-- Where an entrant is sent, and whether it was pinned on the way. -/
inductive Route where
  | target
  | backup
  | trap
  | callback (pinned : Bool)
  deriving DecidableEq, Repr

def Route.entry (gate : HostPublicationGate) : Route → Address
  | .target => gate.target
  | .backup => gate.backup
  | .trap => nullptr
  | .callback _ => gate.callbackEntry

/-- One attempt of an entrant at the gate; `none` is the attempt that yields and tries again.
Each way out of the source's loop is decided by its last read of the word: the load at the top for
the blocking, bypass and trap states, and the compare-and-swap for a pin. -/
def acquirePublishedHostHookRoute (published : PublishedHostHook) :
    Option (PublishedHostHook × Route) :=
  let state := loadGateState published.gate
  if state = HostPublicationGateState.installing.toWord ∨
      state = HostPublicationGateState.closed.toWord then none
  else if state = HostPublicationGateState.bypassTarget.toWord then some (published, .target)
  else if state = HostPublicationGateState.bypassBackup.toWord then some (published, .backup)
  else if state ≠ HostPublicationGateState.armed.toWord ∧
      state ≠ HostPublicationGateState.draining.toWord then some (published, .trap)
  else if published.trackGeneratedEntrants = false then some (published, .callback false)
  else if published.gate.control >>> 32 = 0xffffffff#64 then some (published, .trap)
  else
    some ({ published with gate := { published.gate with
      control := published.gate.control + highOne } }, .callback true)

end DartPlant
