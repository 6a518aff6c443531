import DartPlant.Interceptor.ReturnSites
import DartPlant.Lib.SharedLedger
import Mathlib.Logic.Function.Basic

/-! # Installing and restoring return interception

The two transactions over the RET sites of one code payload.  An install overwrites the sites its
entry reaches with branches to the payload's return veneer, sharing the sites that a sibling entry
already owns; a restore gives them back and rewrites those that nobody else uses.

A code write can fail in two ways, because `WriteExecutableInstruction` makes the page writable,
stores, and makes it executable again: it may fail before the store or after it.  Both transactions
write each address at most once going forward and at most once rolling back, so the outcomes of
their writes are two functions of the address.

The payload's mutex is held throughout.  The counters are 32 bits wide in the code; a payload has
less than 2^30 entries and one hook on each, so they do not wrap and are natural numbers here.
-/

namespace DartPlant
open SharedLedger

/-- The instruction words in memory. -/
abbrev Code := Address → Instruction

inductive WriteOutcome where
  | ok
  | failBefore
  | failAfter
  deriving DecidableEq, Repr

/-- `WriteExecutableInstruction`. -/
def writeExecutableInstruction (code : Code) (address : Address) (instruction : Instruction) :
    WriteOutcome → Code × Bool
  | .ok => (Function.update code address instruction, true)
  | .failBefore => (code, false)
  | .failAfter => (Function.update code address instruction, false)

/-- `EncodeDirectBranch`.  The difference of the two casts is that of the words, as a signed
word. -/
def encodeDirectBranch (source target : Address) : Option Instruction :=
  if source &&& 3 ≠ 0 ∨ target &&& 3 ≠ 0 then none
  else
    let delta := (target - source).toInt
    if delta % 4 ≠ 0 ∨ delta ≤ -(2 ^ 27) ∨ delta ≥ 2 ^ 27 then none
    else some (0x14000000#32 ||| (BitVec.ofInt 32 (delta / 4) &&& 0x03ffffff#32))

/-- The part of `DartCodePayload` that return interception reads and writes.  `pristine` is the
code that `pristine_bytes` was captured from. -/
structure DartCodePayload where
  start : Address
  instructionsLength : BitVec 32
  pristine : Code
  pristineSize : Nat
  returnEntry : Option Address
  returnEntryPublished : Bool
  returnPatches : List Arm64ReturnPatch
  returnInterceptionConsumers : Nat

namespace DartCodePayload

/-- `DartCodePayload::end`. -/
def end_ (payload : DartCodePayload) : Address :=
  let length := payload.instructionsLength.setWidth 64
  if payload.start > BitVec.allOnes 64 - length then 0 else payload.start + length

/-- `DartCodePayload::Contains`. -/
def contains (payload : DartCodePayload) (address : Address) (size : BitVec 64) : Bool :=
  payload.start ≠ 0 && payload.end_ > payload.start && address ≥ payload.start &&
    address ≤ payload.end_ && size ≤ payload.end_ - address

/-- `DestroyUnpublishedReturnEntry`. -/
def destroyUnpublishedReturnEntry (payload : DartCodePayload) : DartCodePayload :=
  if payload.returnEntryPublished then payload else { payload with returnEntry := none }

/-- The guarded call of it that ends every path of an install that does not succeed. -/
def dropIdleReturnEntry (payload : DartCodePayload) : DartCodePayload :=
  if payload.returnInterceptionConsumers = 0 ∧ payload.returnPatches = [] then
    payload.destroyUnpublishedReturnEntry
  else payload

end DartCodePayload

/-- The part of `DartPlantHook` that return interception reads and writes, with the code range of
its entry. -/
structure ReturnHook where
  entry : Address
  codeSize : BitVec 32
  payloadReturnConsumer : Bool := false
  payloadReturnSites : List Address := []
  deriving DecidableEq, Repr

/-- What one transaction works on. -/
structure ReturnState where
  code : Code
  payload : DartCodePayload
  hook : ReturnHook

/-! ## Install -/

/-- How the world answers one install: the veneer, the allocations, and the code writes. -/
structure InstallOutcomes where
  returnEntry : Option Address
  walkMemory : Bool
  maxPatches : Nat
  reserved : Bool
  retained : Bool
  write : Address → WriteOutcome
  rollback : Address → WriteOutcome

inductive SiteCheck where
  | owned
  | writable (branch : Instruction)
  | refused (message : String)

/-- What an install asks of a candidate before it writes; `current` is the word at its address. -/
def checkSite (patches : List Arm64ReturnPatch) (returnEntry : Address) (retained : Bool)
    (candidate : Arm64ReturnPatch) (current : Instruction) : SiteCheck :=
  match patches.find? fun patch => patch.address == candidate.address with
  | some existing =>
    if existing.originalInstruction ≠ candidate.originalInstruction ∨ existing.consumers = 0 ∨
        current ≠ existing.patchedInstruction then
      .refused "existing payload RET patch no longer matches managed ownership"
    else .owned
  | none =>
    let failed := "failed to install ARM64 Dart return interception"
    if current ≠ candidate.originalInstruction then .refused failed
    else
      match encodeDirectBranch candidate.address returnEntry with
      | none => .refused failed
      | some branch => if retained = false then .refused failed else .writable branch

/-- The state of an install's loop. -/
structure Acquisition where
  code : Code
  published : Bool
  newlyInstalled : List Arm64ReturnPatch := []
  existingConsumed : List Address := []
  acquiredSites : List Address := []

/-- The loop over the candidates, with the error it stops at. -/
def acquireSites (patches : List Arm64ReturnPatch) (returnEntry : Address) (retained : Bool)
    (write : Address → WriteOutcome) :
    Acquisition → List Arm64ReturnPatch → Acquisition × Option String
  | acquisition, [] => (acquisition, none)
  | acquisition, candidate :: rest =>
    let acquiredSites := acquisition.acquiredSites ++ [candidate.address]
    match checkSite patches returnEntry retained candidate
        (acquisition.code candidate.address) with
    | .refused message => (acquisition, some message)
    | .owned =>
      acquireSites patches returnEntry retained write
        { acquisition with
          existingConsumed := acquisition.existingConsumed ++ [candidate.address]
          acquiredSites := acquiredSites } rest
    | .writable branch =>
      match writeExecutableInstruction acquisition.code candidate.address branch
          (write candidate.address) with
      | (code, false) =>
        ({ acquisition with code := code, published := true },
          some "failed to install ARM64 Dart return interception")
      | (code, true) =>
        let installed := { candidate with patchedInstruction := branch, consumers := 1 }
        acquireSites patches returnEntry retained write
          { acquisition with
            code := code
            published := true
            newlyInstalled := acquisition.newlyInstalled ++ [installed]
            acquiredSites := acquiredSites } rest

/-- The loop of `rollback_newly_installed`, over the new sites from the last to the first: the code,
whether the rollback was clean, and the residual sites. -/
def rollbackSites (rollback : Address → WriteOutcome) :
    Code → List Arm64ReturnPatch → Code × Bool × List Arm64ReturnPatch
  | code, [] => (code, true, [])
  | code, site :: rest =>
    if code site.address = site.originalInstruction then rollbackSites rollback code rest
    else if code site.address = site.patchedInstruction then
      match writeExecutableInstruction code site.address site.originalInstruction
          (rollback site.address) with
      | (code, true) => rollbackSites rollback code rest
      | (code, false) =>
        let (after, _, residual) := rollbackSites rollback code rest
        (after, false, if code site.address = site.patchedInstruction then site :: residual
          else residual)
    else
      let (after, _, residual) := rollbackSites rollback code rest
      (after, false, residual)

/-- `rollback_newly_installed`: sites that could not be rewritten stay recorded, and the hook stays
their consumer. -/
def rollbackNewlyInstalled (s : ReturnState) (rollback : Address → WriteOutcome)
    (newlyInstalled : List Arm64ReturnPatch) (error : String) : ReturnState × Result Unit :=
  let (code, clean, residual) := rollbackSites rollback s.code newlyInstalled.reverse
  let recorded := residual.map fun patch => { patch with consumers := 1 }
  let kept : ReturnState :=
    if residual = [] then { s with code := code }
    else {
      code := code
      payload := { s.payload with
        returnPatches := s.payload.returnPatches ++ recorded
        returnInterceptionConsumers := s.payload.returnInterceptionConsumers + 1 }
      hook := { s.hook with
        payloadReturnConsumer := true
        payloadReturnSites := recorded.map Arm64ReturnPatch.address } }
  ({ kept with payload := kept.payload.dropIdleReturnEntry },
    .error ⟨.hookFailed, if clean then error
      else "ARM64 Dart return interception failed and could not be fully rolled back"⟩)

def gainConsumer (patch : Arm64ReturnPatch) : Arm64ReturnPatch :=
  { patch with consumers := patch.consumers + 1 }

/-- The part of an install before its loop: the payload with its veneer, and the veneer and the
candidates for the loop. -/
def planInstall (s : ReturnState) (outcomes : InstallOutcomes) :
    DartCodePayload × Result (Address × List Arm64ReturnPatch) :=
  let size := s.hook.codeSize.setWidth 64
  let start := s.hook.entry
  let end_ := start + size
  if start = 0 ∨ s.hook.codeSize < 4 then
    (s.payload, .error ⟨.unsupportedAbi,
      "Dart callback hook has no exact code range for exception-safe returns"⟩)
  else if end_ ≤ start ∨ start &&& 3 ≠ 0 ∨ s.payload.end_ = 0 ∨ end_ > s.payload.end_ ∨
      s.payload.contains start size = false ∨
      s.payload.pristineSize ≠ s.payload.instructionsLength.toNat then
    (s.payload, .error ⟨.profileMismatch, "Dart callback code range is invalid"⟩)
  else
    match s.payload.returnEntry <|> outcomes.returnEntry with
    | none =>
      (s.payload, .error ⟨.hookFailed, "failed to allocate payload-level ARM64 return veneer"⟩)
    | some returnEntry =>
      let payload := { s.payload with returnEntry := some returnEntry }
      match if outcomes.walkMemory then collectReachableArm64Returns payload.pristine size start
          else none with
      | none =>
        (payload.dropIdleReturnEntry, .error ⟨.unsupportedAbi, "Dart callback entry has no " ++
          "complete reachable ARM64 RET graph; indirect/tail exits fail closed"⟩)
      | some candidates =>
        if candidates.length > outcomes.maxPatches - payload.returnPatches.length then
          (payload.dropIdleReturnEntry,
            .error ⟨.hookFailed, "too many ARM64 Dart return interception sites"⟩)
        else if outcomes.reserved = false then
          (payload.dropIdleReturnEntry, .error ⟨.hookFailed,
            "failed to reserve ARM64 Dart return interception ownership"⟩)
        else (payload, .ok (returnEntry, candidates))

/-- `InstallArm64ReturnInterception` on a hook whose code target has a payload. -/
def installArm64ReturnInterception (s : ReturnState) (outcomes : InstallOutcomes) :
    ReturnState × Result Unit :=
  match planInstall s outcomes with
  | (payload, .error failure) => ({ s with payload := payload }, .error failure)
  | (payload, .ok (returnEntry, candidates)) =>
    match acquireSites payload.returnPatches returnEntry
        (payload.returnEntryPublished || outcomes.retained) outcomes.write
        { code := s.code, published := payload.returnEntryPublished } candidates with
    | (acquisition, some error) =>
      rollbackNewlyInstalled
        { s with
          code := acquisition.code
          payload := { payload with returnEntryPublished := acquisition.published } }
        outcomes.rollback acquisition.newlyInstalled error
    | (acquisition, none) =>
      ({ code := acquisition.code
         payload := { payload with
          returnEntryPublished := acquisition.published
          returnPatches := acquisition.existingConsumed.foldl (fun patches address =>
            alter Arm64ReturnPatch.address gainConsumer address patches) payload.returnPatches ++
              acquisition.newlyInstalled
          returnInterceptionConsumers := payload.returnInterceptionConsumers + 1 }
         hook := { s.hook with
          payloadReturnConsumer := true
          payloadReturnSites := acquisition.acquiredSites } }, .ok ())

/-! ## Restore -/

structure RestoreOutcomes where
  write : Address → WriteOutcome
  rollback : Address → WriteOutcome

/-- The first loop of a restore: every site is still owned, and the patches of the sites that only
this hook uses. -/
def ownedSites (code : Code) (patches : List Arm64ReturnPatch) :
    List Address → Option (List Arm64ReturnPatch)
  | [] => some []
  | address :: rest =>
    match patches.find? fun patch => patch.address == address with
    | none => none
    | some patch =>
      if patch.consumers = 0 then none
      else if code patch.address ≠ patch.patchedInstruction then none
      else
        (ownedSites code patches rest).map fun restoreSites =>
          if patch.consumers = 1 then patch :: restoreSites else restoreSites

/-- The rollback of a restore: the code, and whether every write succeeded. -/
def rewriteSites (rollback : Address → WriteOutcome) :
    Code → List Arm64ReturnPatch → Code × Bool
  | code, [] => (code, true)
  | code, site :: rest =>
    let (code, wrote) := writeExecutableInstruction code site.address site.patchedInstruction
      (rollback site.address)
    let (after, ok) := rewriteSites rollback code rest
    (after, wrote && ok)

/-- The second loop of a restore, with the error it stops at; the error has a text only when the
rollback fails. -/
def restoreSites (outcomes : RestoreOutcomes) :
    Code → List Arm64ReturnPatch → List Arm64ReturnPatch → Code × Except (Option String) Unit
  | code, _, [] => (code, .ok ())
  | code, restored, patch :: rest =>
    let failed (code : Code) : Code × Except (Option String) Unit :=
      let (rewritten, ok) := rewriteSites outcomes.rollback code restored.reverse
      (rewritten, .error (if ok then none
        else some "failed to roll back partial ARM64 Dart return restoration"))
    if code patch.address ≠ patch.patchedInstruction then failed code
    else
      match writeExecutableInstruction code patch.address patch.originalInstruction
          (outcomes.write patch.address) with
      | (code, false) => failed code
      | (code, true) => restoreSites outcomes code (restored ++ [patch]) rest

def loseConsumer (patch : Arm64ReturnPatch) : Arm64ReturnPatch :=
  { patch with consumers := patch.consumers - 1 }

/-- The third loop of a restore, and whether it reached the end. -/
def releaseSites : List Arm64ReturnPatch → List Address → List Arm64ReturnPatch × Bool
  | patches, [] => (patches, true)
  | patches, address :: rest =>
    match patches.find? fun patch => patch.address == address with
    | none => (patches, false)
    | some patch =>
      if patch.consumers = 0 then (patches, false)
      else releaseSites (alter Arm64ReturnPatch.address loseConsumer address patches) rest

/-- `RestoreArm64ReturnInterception` on a hook whose code target has a payload: true is `ok`, and
false is an error with the text it sets, if any. -/
def restoreArm64ReturnInterception (s : ReturnState) (outcomes : RestoreOutcomes) :
    ReturnState × Except (Option String) Unit :=
  if s.hook.payloadReturnConsumer = false then (s, .ok ())
  else if s.payload.returnInterceptionConsumers = 0 ∨ s.hook.payloadReturnSites = [] then
    (s, .error none)
  else
    match ownedSites s.code s.payload.returnPatches s.hook.payloadReturnSites with
    | none => (s, .error none)
    | some sites =>
      match restoreSites outcomes s.code [] sites with
      | (code, .error text) => ({ s with code := code }, .error text)
      | (code, .ok ()) =>
        match releaseSites s.payload.returnPatches s.hook.payloadReturnSites with
        | (patches, false) =>
          ({ s with code := code, payload := { s.payload with returnPatches := patches } },
            .error none)
        | (patches, true) =>
          let payload := { s.payload with
            returnPatches := patches.filter fun patch => patch.consumers ≠ 0
            returnInterceptionConsumers := s.payload.returnInterceptionConsumers - 1 }
          let hook := { s.hook with payloadReturnConsumer := false, payloadReturnSites := [] }
          if payload.returnInterceptionConsumers = 0 then
            if payload.returnPatches ≠ [] then (⟨code, payload, hook⟩, .error none)
            else (⟨code, payload.destroyUnpublishedReturnEntry, hook⟩, .ok ())
          else (⟨code, payload, hook⟩, .ok ())

/-! ## One payload and its hooks -/

/-- A payload in memory, with the hook records that were built on its entries. -/
structure PayloadWorld where
  code : Code
  payload : DartCodePayload
  hooks : List ReturnHook

/-- The hook registry installs once for each record, which it has just built, and may restore a
record as often as it likes. -/
inductive ReturnOp where
  | install (entry : Address) (codeSize : BitVec 32) (outcomes : InstallOutcomes)
  | restore (index : Nat) (outcomes : RestoreOutcomes)

def applyReturnOp (w : PayloadWorld) : ReturnOp → PayloadWorld
  | .install entry codeSize outcomes =>
    let (s, _) := installArm64ReturnInterception ⟨w.code, w.payload, ⟨entry, codeSize, false, []⟩⟩
      outcomes
    ⟨s.code, s.payload, w.hooks ++ [s.hook]⟩
  | .restore index outcomes =>
    match w.hooks[index]? with
    | none => w
    | some hook =>
      let (s, _) := restoreArm64ReturnInterception ⟨w.code, w.payload, hook⟩ outcomes
      ⟨s.code, s.payload, w.hooks.set index s.hook⟩

/-- A payload on which nothing has been installed: its live RET sites are pristine. -/
structure FreshPayload (w : PayloadWorld) : Prop where
  code : ∀ address, isDartReturn (w.payload.pristine address) = true →
    w.code address = w.payload.pristine address
  patches : w.payload.returnPatches = []
  consumers : w.payload.returnInterceptionConsumers = 0
  hooks : w.hooks = []

end DartPlant
