import DartPlant.Lib.FlagOwners
import DartPlant.Lib.Runs
import DartPlant.Vm.ObjectBridge

/-! # The persistent roots of the Flutter adapter

The adapter owns a table of persistent handles.  A generated transition leases some of them for the
raw values that are live in an intercepted entry, and a retained object owns one.  Slots and leases
are claimed one by one with a compare-exchange, so calls of other threads run in between.

A `RootCall` is named after the access that the call makes next; what it does to its own memory
before the following access belongs to the same step.  The tests of a loop and the branches are in
`unwindFrom`, `readFrom` and `resume`.

The Dart API, the allocator and the collector are what they answer or do: whether a handle comes
back null, the address of a new `RealHandle`, and where the collector moves the objects.  Running
out of memory in `new RealHandle` is not caught anywhere and ends the process.
-/

namespace DartPlant
open Runs FlagOwners Function

/-! ## The table -/

def kRootSlotCount : Nat := 128
def kLeaseCount : Nat := 4
def kRootsPerLease : Nat := 96

/-- A persistent handle, as the raw value it holds. -/
structure RootSlot where
  raw : BitVec 64
  used : Bool := false
  deriving DecidableEq, Repr

structure RootLease where
  used : Bool := false
  count : Nat := 0
  slots : Nat → Nat := fun _ => 0
  /-- `owner != nullptr`. -/
  hasOwner : Bool := false

namespace RootLease
variable (lease : RootLease)

/-- The slots a lease lists. -/
def listed : List Nat := (List.range lease.count).map lease.slots

def setUsed (used : Bool) : RootLease := { lease with used := used }

def reset : RootLease := { lease with hasOwner := true, count := 0 }

/-- The slot goes into the array, as a `uint16_t`, and is counted. -/
def push (index root : Nat) : RootLease :=
  { lease with
    slots := update lease.slots index (root % 2 ^ 16), count := lease.count + 1 }

def close : RootLease := { lease with count := 0, used := false }

end RootLease

inductive DartPlantObjectStrength where
  | strong
  | weak
  deriving DecidableEq, Repr

structure RealHandle where
  strength : DartPlantObjectStrength
  rootSlot : Nat := 2 ^ 32 - 1
  deriving DecidableEq, Repr

/-! ## The calls under way -/

/-- Whom `AcquireRoot` acquires a slot for. -/
inductive AcquireUser where
  | pin (values : List (BitVec 64)) (lease index : Nat)
  | retain (raw : BitVec 64) (strength : DartPlantObjectStrength)
  deriving DecidableEq, Repr

/-- What is next when `ReleaseRoot` returns. -/
inductive ReleaseUser where
  | unwind (lease cursor : Nat)
  | unpin (lease index : Nat) (out : List (BitVec 64))
  | noLocal
  | weak (handle : Option Nat)
  | object
  deriving DecidableEq, Repr

/-- Where a call is. -/
inductive RootCall where
  | claimLease (values : List (BitVec 64)) (candidate : Nat)
  | resetLease (values : List (BitVec 64)) (lease : Nat)
  | acquire (cursor : Nat) (user : AcquireUser)
  | pinRoot (values : List (BitVec 64)) (lease index root : Nat)
  | returnLease (values : List (BitVec 64)) (lease : Nat)
  | dropLease (lease : Nat)
  | clear (root : Nat) (user : ReleaseUser)
  | free (root : Nat) (user : ReleaseUser)
  | readRoot (lease index : Nat) (out : List (BitVec 64))
  | endUnpin (lease : Nat) (out : List (BitVec 64))
  | retainRoot (raw : BitVec 64) (strength : DartPlantObjectStrength) (root : Nat)
  | makeLocal (strength : DartPlantObjectStrength) (root : Nat)
  | makeHandle (strength : DartPlantObjectStrength) (root : Nat)
  deriving DecidableEq, Repr

/-- What happened to the values: a pin or a set stored one, or the collector moved the objects. -/
inductive RootEvent where
  | stored (lease index : Nat) (raw : BitVec 64)
  | moved (move : BitVec 64 → BitVec 64)

/-- The table with the calls under way.  `live` is which leases the clients have, and `history`,
newest first, is not in the program. -/
structure RootTable where
  nullRaw : BitVec 64
  identity : DartPlantIsolateIdentity
  roots : Nat → RootSlot
  leases : Nat → RootLease := fun _ => {}
  handles : Nat → Option RealHandle := fun _ => none
  live : Nat → Bool := fun _ => false
  calls : Nat → Option RootCall := fun _ => none
  history : List RootEvent := []

/-- The table that `dartplant_flutter_vm_adapter_create` publishes. -/
def RootTable.init (nullRaw : BitVec 64) (identity : DartPlantIsolateIdentity) : RootTable where
  nullRaw := nullRaw
  identity := identity
  roots := fun _ => ⟨nullRaw, false⟩

/-- The value last pinned or set at an index of a lease: as it was given, and where the collector
has moved it since. -/
def lastStored (lease index : Nat) : List RootEvent → Option (BitVec 64 × BitVec 64)
  | [] => none
  | .stored lease' index' raw :: history =>
    if lease' = lease ∧ index' = index then some (raw, raw) else lastStored lease index history
  | .moved move :: history => (lastStored lease index history).map fun v => (v.1, move v.2)

/-! ## The steps -/

inductive RootAction where
  | pin (call : Nat) (identity : DartPlantIsolateIdentity) (values : List (BitVec 64))
  | unpin (call lease valueCount : Nat)
  | retain (call : Nat) (raw : BitVec 64) (strength : DartPlantObjectStrength)
  | release (call handle : Nat)
  | get (lease index : Nat)
  | set (lease index : Nat) (raw : BitVec 64)
  -- The next step of a call; the Dart API answers a handle, or null.
  | proceed (call : Nat) (answered : Bool) (newHandle : Nat)
  | collect (move : BitVec 64 → BitVec 64)

inductive RootOutcome where
  | pinned (call lease : Nat) (values : List (BitVec 64))
  | unpinned (call lease : Nat) (out : List (BitVec 64))
  | retained (call handle : Nat)
  | released (call : Nat)
  | got (lease index : Nat) (raw : BitVec 64)
  | set (lease index : Nat) (raw : BitVec 64)
  /-- A pin or a retain that fails. -/
  | failed (call : Nat) (status : DartPlantStatus)
  /-- A get, a set or an unpin that refuses its arguments. -/
  | refused (status : DartPlantStatus)
  deriving DecidableEq, Repr

namespace RootTable
variable (table : RootTable)

def setCall (call : Nat) (phase : RootCall) : RootTable :=
  { table with calls := update table.calls call (some phase) }

def finish (call : Nat) : RootTable :=
  { table with calls := update table.calls call none }

def setUsed (root : Nat) (used : Bool) : RootTable :=
  { table with
    roots := update table.roots root { table.roots root with used := used } }

/-- `SetRootRaw`. -/
def setRaw (root : Nat) (raw : BitVec 64) : RootTable :=
  { table with roots := update table.roots root { table.roots root with raw := raw } }

def setLease (index : Nat) (lease : RootLease) : RootTable :=
  { table with leases := update table.leases index lease }

def setHandle (index : Nat) (handle : Option RealHandle) : RootTable :=
  { table with handles := update table.handles index handle }

def setLive (lease : Nat) (live : Bool) : RootTable :=
  { table with live := update table.live lease live }

def record (event : RootEvent) : RootTable := { table with history := event :: table.history }

/-- The slot joins the lease with its value. -/
def pinAt (lease index root : Nat) (raw : BitVec 64) : RootTable :=
  ((table.setLease lease ((table.leases lease).push index root)).setRaw root raw).record
    (.stored lease index raw)

section Updates
variable {table : RootTable} {root other : Nat}

@[simp] theorem setUsed_raw {used : Bool} :
    ((table.setUsed root used).roots other).raw = (table.roots other).raw := by
  by_cases h : other = root
  · simp only [setUsed, h, update_self]
  · simp only [setUsed, update_of_ne h]

@[simp] theorem setRaw_used {raw : BitVec 64} :
    ((table.setRaw root raw).roots other).used = (table.roots other).used := by
  by_cases h : other = root
  · simp only [setRaw, h, update_self]
  · simp only [setRaw, update_of_ne h]

@[simp] theorem setRaw_raw_self {raw : BitVec 64} :
    ((table.setRaw root raw).roots root).raw = raw := by
  simp only [setRaw, update_self]

theorem setRaw_raw_of_ne {raw : BitVec 64} (h : other ≠ root) :
    ((table.setRaw root raw).roots other).raw = (table.roots other).raw := by
  simp only [setRaw, update_of_ne h]

/-- The flags of a table whose slot is claimed or freed. -/
theorem setUsed_used (used : Bool) :
    (fun other => ((table.setUsed root used).roots other).used) =
      update (fun other => (table.roots other).used) root used := by
  funext other
  by_cases h : other = root
  · simp only [setUsed, h, update_self]
  · simp only [setUsed, update_of_ne h]

/-- The flags of a table with another lease at an index. -/
theorem setLease_used (index : Nat) (lease : RootLease) :
    (fun other => ((table.setLease index lease).leases other).used) =
      update (fun other => (table.leases other).used) index lease.used := by
  funext other
  by_cases h : other = index
  · simp only [setLease, h, update_self]
  · simp only [setLease, update_of_ne h]

end Updates

/-- The collector visits the persistent handles. -/
def relocate (move : BitVec 64 → BitVec 64) : RootTable :=
  { table with
    roots := fun root => { table.roots root with raw := move (table.roots root).raw } }

/-- The loop of a failed pin, at its test. -/
def unwindFrom (lease cursor : Nat) : RootCall :=
  if cursor < (table.leases lease).count then
    .clear ((table.leases lease).slots cursor) (.unwind lease (cursor + 1))
  else .dropLease lease

/-- The loop of `UnpinGeneratedRoots`, at its test. -/
def readFrom (lease index : Nat) (out : List (BitVec 64)) : RootCall :=
  if index < (table.leases lease).count then .readRoot lease index out else .endUnpin lease out

/-- `ReleaseRoot` has returned. -/
def resume (call : Nat) : ReleaseUser → RootTable × Option RootOutcome
  | .unwind lease cursor => (table.setCall call (table.unwindFrom lease cursor), none)
  | .unpin lease index out => (table.setCall call (table.readFrom lease index out), none)
  | .noLocal => (table.finish call, some (.failed call .objectHandleInvalid))
  | .weak none => (table.finish call, some (.failed call .objectHandleInvalid))
  | .weak (some handle) => (table.finish call, some (.retained call handle))
  | .object => (table.finish call, some (.released call))

/-- The rest of `AcquireRoot`, once it has the slot. -/
def acquired (root : Nat) : AcquireUser → RootCall
  | .pin values lease index => .pinRoot values lease index root
  | .retain raw strength => .retainRoot raw strength root

/-- `AcquireRoot` has found no free slot. -/
def exhausted (call : Nat) : AcquireUser → RootTable × Option RootOutcome
  | .pin _ lease _ => (table.setCall call (table.unwindFrom lease 0), none)
  | .retain _ _ => (table.finish call, some (.failed call .vmAdapterBusy))

/-- The next access of a call. -/
def proceed (call : Nat) (answered : Bool) (newHandle : Nat) :
    RootCall → Option (RootTable × Option RootOutcome)
  | .claimLease values candidate =>
    if candidate < kLeaseCount then
      if (table.leases candidate).used then
        some (table.setCall call (.claimLease values (candidate + 1)), none)
      else
        some ((table.setLease candidate ((table.leases candidate).setUsed true)).setCall call
          (.resetLease values candidate), none)
    else some (table.finish call, some (.failed call .vmAdapterBusy))
  | .resetLease values lease =>
    some ((table.setLease lease (table.leases lease).reset).setCall call
      (.acquire 0 (.pin values lease 0)), none)
  | .acquire cursor user =>
    if cursor < kRootSlotCount then
      if (table.roots cursor).used then
        some (table.setCall call (.acquire (cursor + 1) user), none)
      else some ((table.setUsed cursor true).setCall call (acquired cursor user), none)
    else some (table.exhausted call user)
  | .pinRoot values lease index root =>
    some ((table.pinAt lease index root (values.getD index 0)).setCall call
      (if index + 1 < values.length then .acquire 0 (.pin values lease (index + 1))
        else .returnLease values lease), none)
  | .returnLease values lease =>
    some ((table.setLive lease true).finish call, some (.pinned call lease values))
  | .dropLease lease =>
    some ((table.setLease lease ((table.leases lease).setUsed false)).finish call,
      some (.failed call .vmAdapterBusy))
  | .clear root user =>
    if root < kRootSlotCount then
      some ((table.setRaw root table.nullRaw).setCall call (.free root user), none)
    else some (table.resume call user)
  | .free root user => some ((table.setUsed root false).resume call user)
  | .readRoot lease index out =>
    let root := (table.leases lease).slots index
    some (table.setCall call
      (.clear root (.unpin lease (index + 1) (out ++ [(table.roots root).raw]))), none)
  | .endUnpin lease out =>
    some ((table.setLease lease (table.leases lease).close).finish call,
      some (.unpinned call lease out))
  | .retainRoot raw strength root =>
    some ((table.setRaw root raw).setCall call (.makeLocal strength root), none)
  | .makeLocal strength root =>
    some (table.setCall call
      (if answered then .makeHandle strength root else .clear root .noLocal), none)
  | .makeHandle strength root =>
    -- The allocator hands out no address that is in use.
    if (table.handles newHandle).isSome then none
    else match strength with
      | .strong =>
        some ((table.setHandle newHandle (some ⟨.strong, root⟩)).finish call,
          some (.retained call newHandle))
      | .weak =>
        if answered then
          some ((table.setHandle newHandle (some { strength := .weak })).setCall call
            (.clear root (.weak (some newHandle))), none)
        else some (table.setCall call (.clear root (.weak none)), none)

/-- The checks of `GeneratedRootGet` and `GeneratedRootSet`. -/
def refusesRoot (lease index : Nat) : Prop :=
  (table.leases lease).used = false ∨ (table.leases lease).hasOwner = false ∨
    (table.leases lease).count ≤ index

instance (lease index : Nat) : Decidable (table.refusesRoot lease index) :=
  inferInstanceAs (Decidable (_ ∨ _ ∨ _))

/-- One step, and what a call returns in it.  A client uses the leases and the handles it has, an
unpin or a release takes its own away from the clients, and a call is one of its thread's. -/
def act : RootAction → Option (RootTable × Option RootOutcome)
  | .pin call identity values =>
    if (table.calls call).isSome then none
    else if values = [] ∨ kRootsPerLease < values.length ∨
        identity.isolate ≠ table.identity.isolate ∨
        identity.isolateGroup ≠ table.identity.isolateGroup then
      some (table, some (.failed call .invalidArgument))
    else some (table.setCall call (.claimLease values 0), none)
  | .unpin call lease valueCount =>
    if (table.calls call).isSome ∨ table.live lease = false then none
    else if (table.leases lease).used = false ∨ (table.leases lease).hasOwner = false ∨
        valueCount ≠ (table.leases lease).count then
      some (table, some (.refused .invalidArgument))
    else some ((table.setLive lease false).setCall call (table.readFrom lease 0 []), none)
  | .retain call raw strength =>
    if (table.calls call).isSome then none
    else some (table.setCall call (.acquire 0 (.retain raw strength)), none)
  | .release call handle =>
    if (table.calls call).isSome then none
    else match table.handles handle with
      | none => none
      | some ⟨.weak, _⟩ => some (table.setHandle handle none, some (.released call))
      | some ⟨.strong, root⟩ =>
        some ((table.setHandle handle none).setCall call (.clear root .object), none)
  | .get lease index =>
    if table.live lease = false then none
    else if table.refusesRoot lease index then some (table, some (.refused .invalidArgument))
    else some (table,
      some (.got lease index (table.roots ((table.leases lease).slots index)).raw))
  | .set lease index raw =>
    if table.live lease = false then none
    else if table.refusesRoot lease index then some (table, some (.refused .invalidArgument))
    else some ((table.setRaw ((table.leases lease).slots index) raw).record
      (.stored lease index raw), some (.set lease index raw))
  | .proceed call answered newHandle =>
    (table.calls call).bind (table.proceed call answered newHandle)
  | .collect move =>
    -- Canonical null does not move.
    if move table.nullRaw = table.nullRaw then
      some ((table.relocate move).record (.moved move), none)
    else none

def step (action : RootAction) : Option RootTable := (table.act action).map Prod.fst

end RootTable

end DartPlant
