import DartPlant.Lib.KeyedTable
import DartPlant.Runtime.ImageTransition

/-! # The registry of entry targets

Everything that resolves to one physical entry shares one target, and all entries of one body of
code share its payload.  The registry finds them again by address, but it does not keep them: it
holds weak references, and a target lives as long as a handle of it does.
-/

namespace DartPlant

open KeyedTable

abbrev TargetId := Nat
abbrev PayloadId := Nat

/-- `DartCodePayload`, as far as the registry tells one from another. -/
structure RegisteredPayload where
  imageId : RuntimeImageId
  owner : DartRuntimeOwnerIdentity
  start : Address
  instructionsLength : BitVec 32
  codeObject : BitVec 64
  exactIdentity : Bool
  deriving DecidableEq, Repr

/-- `DartEntryTarget`, as an object that is shared and changes. -/
structure SharedEntryTarget where
  imageId : RuntimeImageId
  owner : DartRuntimeOwnerIdentity
  entry : Address
  codeSize : BitVec 32
  codeObject : BitVec 64
  reportedAliasCount : BitVec 32
  identityProof : DartPlantCodeIdentityProof
  payload : PayloadId
  aliases : List DartMethodIdentity
  hookRecord : Option Nat
  deriving DecidableEq, Repr

/-- The contents of the target at the time of a call. -/
def SharedEntryTarget.contents (target : SharedEntryTarget) : DartEntryTarget where
  entry := target.entry
  codeSize := target.codeSize
  reportedAliasCount := target.reportedAliasCount
  identityProof := target.identityProof
  aliases := target.aliases
  hooked := target.hookRecord.isSome

/-- The registry's tables, every target and payload that was made, and who keeps them alive. -/
structure EntryTargetRegistry where
  targets : List SharedEntryTarget := []
  payloads : List RegisteredPayload := []
  targetTable : List (ImageAddressKey × TargetId) := []
  payloadTable : List (ImageAddressKey × PayloadId) := []
  targetHandles : List TargetId := []
  payloadHandles : List PayloadId := []
  deriving DecidableEq, Repr

namespace EntryTargetRegistry

def liveTarget (registry : EntryTargetRegistry) (id : TargetId) : Bool :=
  registry.targetHandles.contains id

/-- A payload lives by its own handles and by the targets that have it. -/
def livePayload (registry : EntryTargetRegistry) (id : PayloadId) : Bool :=
  registry.payloadHandles.contains id ||
    registry.targetHandles.any fun target =>
      registry.targets[target]?.any (·.payload == id)

end EntryTargetRegistry

/-! ## Evidence -/

/-- What a resolver asks for. -/
structure EntryTargetRequest where
  entry : Address
  codeSize : BitVec 32
  codeObject : BitVec 64 := 0
  reportedAliasCount : BitVec 32 := 1
  identityProof : DartPlantCodeIdentityProof := .unknown
  payloadStart : Address := 0
  instructionsLength : BitVec 32 := 0
  imageId : RuntimeImageId := 0
  owner : DartRuntimeOwnerIdentity := ⟨0, 0, 0, 0, 0⟩
  deriving DecidableEq, Repr

/-- The payload that a request is about, and whether it names it itself. -/
structure PayloadRange where
  owner : DartRuntimeOwnerIdentity
  start : Address
  length : BitVec 32
  explicit : Bool
  deriving DecidableEq, Repr

/-- The owner of the request: an image that is named once counts for both. -/
def EntryTargetRequest.ownerReceipt (request : EntryTargetRequest) :
    Option DartRuntimeOwnerIdentity :=
  let owner := if request.owner.imageId = 0 then { request.owner with imageId := request.imageId }
    else request.owner
  let imageId := if request.imageId = 0 then owner.imageId else request.imageId
  if owner.imageId ≠ imageId then none else some owner

/-- Where the payload starts: at the entry, when the request names no other start. -/
def EntryTargetRequest.start (request : EntryTargetRequest) : Address :=
  if request.payloadStart = 0 then request.entry else request.payloadStart

/-- The request names its payload. -/
def EntryTargetRequest.explicit (request : EntryTargetRequest) : Bool :=
  request.payloadStart != 0 || request.instructionsLength != 0

/-- The length of the payload: as it is named, or up to the end of the entry's code. -/
def EntryTargetRequest.payloadLength (request : EntryTargetRequest) : Option (BitVec 32) :=
  if request.instructionsLength ≠ 0 then some request.instructionsLength
  else
    let lead := request.entry.toNat - request.start.toNat
    if 4294967295 < lead ∨ 4294967295 - lead < request.codeSize.toNat then none
    else some (BitVec.ofNat 32 (lead + request.codeSize.toNat))

/-- The checks of `GetOrCreate` on its arguments. -/
def EntryTargetRequest.range (request : EntryTargetRequest) : Option PayloadRange :=
  if request.entry = 0 then none
  else match request.ownerReceipt with
    | none => none
    | some owner =>
      if request.entry < request.start then none
      else match request.payloadLength with
        | none => none
        | some length =>
          let stop := request.start.toNat + length.toNat
          if length = 0 ∨ 18446744073709551615 < stop ∨ stop ≤ request.entry.toNat ∨
              stop - request.entry.toNat < request.codeSize.toNat then none
          else if request.explicit ∧ request.codeSize.toNat ≠ stop - request.entry.toNat then none
          else some ⟨owner, request.start, length, request.explicit⟩

namespace SharedEntryTarget

/-- A size that is known differently. -/
def sizeConflicts (target : SharedEntryTarget) (codeSize : BitVec 32) : Bool :=
  target.codeSize != 0 && codeSize != 0 && target.codeSize != codeSize

/-- What both merges make of the evidence of a request. -/
def withEvidence (target : SharedEntryTarget) (request : EntryTargetRequest) : SharedEntryTarget :=
  let reported := if target.reportedAliasCount < request.reportedAliasCount
    then request.reportedAliasCount else target.reportedAliasCount
  { target with
    codeSize := if target.codeSize = 0 then request.codeSize else target.codeSize
    codeObject := if request.codeObject ≠ 0 then request.codeObject else target.codeObject
    reportedAliasCount := reported
    identityProof :=
      if request.identityProof = .shared ∨ 1 < reported then .shared
      else if request.identityProof = .unique ∧ target.identityProof = .unknown then .unique
      else target.identityProof }

def withPayload (target : SharedEntryTarget) (payload : PayloadId) : SharedEntryTarget :=
  { target with payload := payload }

/-- The target with the alias among those it has. -/
def withAlias (target : SharedEntryTarget) (identity : DartMethodIdentity) : SharedEntryTarget :=
  if identity ∈ target.aliases then target
  else { target with aliases := target.aliases ++ [identity] }

/-- The functions among the aliases; there are fewer than a count of 32 bits can hold. -/
def functionCount (target : SharedEntryTarget) : Nat :=
  target.contents.distinctLogicalFunctionAliasCount

/-- `AddAlias`. -/
def addAlias (target : SharedEntryTarget) (identity : DartMethodIdentity) : SharedEntryTarget :=
  let added := target.withAlias identity
  if 1 < added.functionCount then
    { added with
      reportedAliasCount := BitVec.ofNat 32 (max target.reportedAliasCount.toNat added.functionCount)
      identityProof := .shared }
  else added

end SharedEntryTarget

/-- A payload of which a Code object is observed. -/
def RegisteredPayload.observe (payload : RegisteredPayload) (codeObject : BitVec 64) :
    RegisteredPayload :=
  { payload with codeObject := if codeObject ≠ 0 then codeObject else payload.codeObject }

namespace EntryTargetRegistry

def setTarget (registry : EntryTargetRegistry) (id : TargetId) (target : SharedEntryTarget) :
    EntryTargetRegistry :=
  { registry with targets := registry.targets.set id target }

def modifyPayload (registry : EntryTargetRegistry) (id : PayloadId)
    (change : RegisteredPayload → RegisteredPayload) : EntryTargetRegistry :=
  { registry with payloads := registry.payloads.modify id change }

@[simp] theorem setTarget_targets {registry : EntryTargetRegistry} {id : TargetId}
    {target : SharedEntryTarget} :
    (registry.setTarget id target).targets = registry.targets.set id target := rfl

@[simp] theorem modifyPayload_payloads {registry : EntryTargetRegistry} {id : PayloadId}
    {change : RegisteredPayload → RegisteredPayload} :
    (registry.modifyPayload id change).payloads = registry.payloads.modify id change := rfl

/-- `MergeEvidence`. -/
def mergeEvidence (registry : EntryTargetRegistry) (id : TargetId) (target : SharedEntryTarget)
    (request : EntryTargetRequest) : Option EntryTargetRegistry :=
  if target.sizeConflicts request.codeSize then none
  else some ((registry.setTarget id (target.withEvidence request)).modifyPayload target.payload
    (·.observe request.codeObject))

/-- `MergeEvidenceAndUpgradePayload`, for a target that still has the expected payload. -/
def mergeEvidenceAndUpgradePayload (registry : EntryTargetRegistry) (id : TargetId)
    (target : SharedEntryTarget) (request : EntryTargetRequest) (replacement : PayloadId) :
    Option EntryTargetRegistry :=
  if target.hookRecord.isSome ∨ target.sizeConflicts request.codeSize then none
  else some ((registry.setTarget id
    ((target.withEvidence request).withPayload replacement)).modifyPayload replacement
      (·.observe request.codeObject))

/-! ## Lookup -/

/-- The loop over the table of payloads: the one that lives at the address, and the table without
the expired entries that were passed. -/
def scanPayloads (registry : EntryTargetRegistry) (owner : DartRuntimeOwnerIdentity)
    (start : Address) : List (ImageAddressKey × PayloadId) →
    Option PayloadId × List (ImageAddressKey × PayloadId)
  | [] => (none, [])
  | entry :: rest =>
    if registry.livePayload entry.2 = false then registry.scanPayloads owner start rest
    else if registry.payloads[entry.2]?.any
        (fun payload => payload.owner == owner && payload.start == start) then
      (some entry.2, entry :: rest)
    else
      let (found, rest) := registry.scanPayloads owner start rest
      (found, entry :: rest)

/-- `FindOrCreatePayloadLocked`. -/
def findOrCreatePayload (registry : EntryTargetRegistry) (range : PayloadRange)
    (codeObject : BitVec 64) (exactIdentity : Bool) : Option PayloadId × EntryTargetRegistry :=
  match registry.scanPayloads range.owner range.start registry.payloadTable with
  | (some id, table) =>
    if registry.payloads[id]?.any (·.instructionsLength != range.length) then
      (none, { registry with payloadTable := table })
    else
      (some id, { registry with payloadTable := table }.modifyPayload id fun payload =>
        { payload.observe codeObject with
          exactIdentity := payload.exactIdentity || exactIdentity })
  | (none, table) =>
    (some registry.payloads.length, { registry with
      payloadTable := assign table ⟨range.owner, range.start⟩ registry.payloads.length
      payloads := registry.payloads ++ [⟨range.owner.imageId, range.owner, range.start,
        range.length, codeObject, exactIdentity⟩] })

/-- A target that is still alive, by its address. -/
def lockTarget (registry : EntryTargetRegistry) (key : ImageAddressKey) :
    Option (TargetId × SharedEntryTarget) :=
  (registry.targetTable.lookup key).bind fun id =>
    if registry.liveTarget id then (registry.targets[id]?).map (id, ·) else none

/-- The handle that a caller gets. -/
def hold (registry : EntryTargetRegistry) (id : TargetId) : EntryTargetRegistry :=
  { registry with targetHandles := id :: registry.targetHandles }

/-- A new target. -/
def createTarget (registry : EntryTargetRegistry) (request : EntryTargetRequest)
    (owner : DartRuntimeOwnerIdentity) (payload : PayloadId) : EntryTargetRegistry :=
  let reported := if request.reportedAliasCount < 1 then 1 else request.reportedAliasCount
  { registry with
    targets := registry.targets ++ [{
      imageId := owner.imageId
      owner := owner
      entry := request.entry
      codeSize := request.codeSize
      codeObject := request.codeObject
      reportedAliasCount := reported
      identityProof := if 1 < reported then .shared else request.identityProof
      payload := payload
      aliases := []
      hookRecord := none }]
    targetTable :=
      assign registry.targetTable ⟨owner, request.entry⟩ registry.targets.length }

/-- `GetOrCreate` for a target that is alive. -/
def updateTarget (registry : EntryTargetRegistry) (request : EntryTargetRequest)
    (range : PayloadRange) (id : TargetId) (target : SharedEntryTarget) :
    Option TargetId × EntryTargetRegistry :=
  if range.explicit = false then
    match registry.mergeEvidence id target request with
    | none => (none, registry)
    | some registry => (some id, registry.hold id)
  else match registry.payloads[target.payload]? with
    | none => (none, registry)
    | some payload =>
      if payload.start ≠ range.start ∨ payload.instructionsLength ≠ range.length then
        if payload.exactIdentity ∨ target.hookRecord.isSome then (none, registry)
        else match registry.findOrCreatePayload range request.codeObject true with
          | (none, registry) => (none, registry)
          | (some replacement, registry) =>
            match registry.mergeEvidenceAndUpgradePayload id target request replacement with
            | none => (none, registry)
            | some registry => (some id, registry.hold id)
      else match registry.mergeEvidence id target request with
        | none => (none, registry)
        | some registry =>
          (some id, (registry.modifyPayload target.payload
            ({ · with exactIdentity := true })).hold id)

/-- `GetOrCreate`. -/
def getOrCreate (registry : EntryTargetRegistry) (request : EntryTargetRequest) :
    Option TargetId × EntryTargetRegistry :=
  match request.range with
  | none => (none, registry)
  | some range =>
    match registry.lockTarget ⟨range.owner, request.entry⟩ with
    | some (id, target) => registry.updateTarget request range id target
    | none =>
      match registry.findOrCreatePayload range request.codeObject range.explicit with
      | (none, registry) => (none, registry)
      | (some payload, registry) =>
        (some registry.targets.length,
          (registry.createTarget request range.owner payload).hold registry.targets.length)

/-- `EraseImage`. -/
def eraseImage (registry : EntryTargetRegistry) (imageId : RuntimeImageId)
    (epoch : RuntimeImageIncarnationEpoch) : EntryTargetRegistry :=
  let erased := DartEntryTargetRegistry.matchesImage imageId epoch
  { registry with
    targetTable := registry.targetTable.filter fun entry => !erased entry.1
    payloadTable := registry.payloadTable.filter fun entry => !erased entry.1 }

end EntryTargetRegistry

/-! ## Runs -/

/-- What is done with the registry, and with the targets of which one has a handle. -/
inductive RegistryAction where
  | getOrCreate (request : EntryTargetRequest)
  | addAlias (id : TargetId) (identity : DartMethodIdentity)
  | bindHookRecord (id : TargetId) (hook : Nat)
  | unbindHookRecord (id : TargetId) (hook : Nat)
  | eraseImage (imageId : RuntimeImageId) (epoch : RuntimeImageIncarnationEpoch)
  | copyHandle (id : TargetId)
  | dropHandle (id : TargetId)
  | retainPayload (id : TargetId)
  | dropPayload (id : PayloadId)
  deriving DecidableEq, Repr

namespace EntryTargetRegistry

/-- A call on a target, by someone who has a handle of it. -/
def withTarget (registry : EntryTargetRegistry) (id : TargetId)
    (change : SharedEntryTarget → SharedEntryTarget) : EntryTargetRegistry :=
  if registry.liveTarget id then
    { registry with targets := registry.targets.modify id change }
  else registry

/-- One action. -/
def step (registry : EntryTargetRegistry) : RegistryAction → EntryTargetRegistry
  | .getOrCreate request => (registry.getOrCreate request).2
  | .addAlias id identity => registry.withTarget id (·.addAlias identity)
  | .bindHookRecord id hook => registry.withTarget id ({ · with hookRecord := some hook })
  | .unbindHookRecord id hook => registry.withTarget id fun target =>
      { target with hookRecord := if target.hookRecord = some hook then none else target.hookRecord }
  | .eraseImage imageId epoch => registry.eraseImage imageId epoch
  | .copyHandle id => if registry.liveTarget id then registry.hold id else registry
  | .dropHandle id => { registry with targetHandles := registry.targetHandles.erase id }
  | .retainPayload id =>
    match if registry.liveTarget id then registry.targets[id]? else none with
    | some target => { registry with payloadHandles := target.payload :: registry.payloadHandles }
    | none => registry
  | .dropPayload id => { registry with payloadHandles := registry.payloadHandles.erase id }

end EntryTargetRegistry

/-- The registry after the actions. -/
def registryRun (actions : List RegistryAction) : EntryTargetRegistry :=
  actions.foldl EntryTargetRegistry.step {}

end DartPlant
