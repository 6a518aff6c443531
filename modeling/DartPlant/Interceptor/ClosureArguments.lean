import DartPlant.Interceptor.Invocation
import DartPlant.Lib.FallibleLoop

/-! # The arguments of a closure call

A closure call passes its user arguments on the entry stack and describes them in an arguments
descriptor: the positional ones come first, and each named one has an entry with its name and its
position.  `ensureClosureArgumentMapping` joins the descriptor of the call with the signature of the
function, once for an invocation.
-/

namespace DartPlant
open ByteMemory FallibleLoop

/-! ## The descriptor -/

/-- `DartPlantArgumentsDescriptorInfo`. -/
structure ArgumentsDescriptorInfo where
  rawDescriptor : BitVec 64
  typeArgsLen : Nat
  count : Nat
  size : Nat
  positionalCount : Nat
  namedCount : Nat
  deriving DecidableEq, Repr

/-- `ReadSelfValue`. -/
def readSelfValue (invocation : Invocation) (state : InvocationState) (address : Address)
    (size : Nat) : Option Nat :=
  if address = 0 then none
  else if invocation.readable address size then some (load state.memory address size)
  else none

/-- The signed value of a 32-bit word. -/
def toInt32 (value : Nat) : Int := Int.bmod value (2 ^ 32)

/-- `DecodePositiveCompressedSmi`. -/
def decodePositiveCompressedSmi (raw : Nat) (layout : RawObjectLayout) : Option Nat :=
  if layout.compressedWordSize ≠ 4 ∨ 32 ≤ layout.smiTagShift ∨
      raw &&& layout.smiTagMask ≠ layout.smiTag then
    none
  else
    let decoded := toInt32 raw >>> layout.smiTagShift
    if decoded < 0 then none else some decoded.toNat

/-- `ReadPositiveCompressedSmi`. -/
def readPositiveCompressedSmi (invocation : Invocation) (state : InvocationState)
    (address : Address) (layout : RawObjectLayout) : Option Nat :=
  if layout.compressedWordSize = 0 ∨ 64 ≤ layout.smiTagShift then none
  else if layout.compressedWordSize = 4 then
    (readSelfValue invocation state address 4).bind (decodePositiveCompressedSmi · layout)
  else if layout.compressedWordSize = 8 then
    (readSelfValue invocation state address 8).bind fun raw =>
      if raw &&& layout.smiTagMask ≠ layout.smiTag then none
      else
        let value := Int.bmod raw (2 ^ 64) >>> layout.smiTagShift
        if value < 0 ∨ 4294967295 < value then none else some value.toNat
  else none

/-- The word is a tagged heap object. -/
def isHeapWord (layout : RawObjectLayout) (raw : BitVec 64) : Bool :=
  raw.toNat &&& layout.smiTagMask == layout.heapObjectTag && layout.heapObjectTag ≤ raw.toNat

/-- The layout of a call that has an arguments descriptor, with the profiles of its objects. -/
def descriptorLayout (invocation : Invocation) :
    Result (DartCallLayout × CallObjectLayout × CallObjectLayout) :=
  match invocation.callLayout with
  | none => .error ⟨.unsupportedAbi, "verified closure ArgumentsDescriptor is unavailable"⟩
  | some layout =>
    if invocation.hasContext = false ∨ layout.hasArgumentsDescriptor = false ∨
        invocation.hasFunction = false then
      .error ⟨.unsupportedAbi, "verified closure ArgumentsDescriptor is unavailable"⟩
    else if invocation.phase ≠ .enter then
      .error ⟨.invalidInvocationPhase,
        "closure ArgumentsDescriptor is only available during enter"⟩
    else match layout.vmCallProfile, layout.vmObjectProfile with
      | some callProfile, some objectProfile =>
        .ok (layout, invocation.callObjectLayout callProfile,
          invocation.callObjectLayout objectProfile)
      | _, _ =>
        .error ⟨.profileMismatch, "closure ArgumentsDescriptor has no call/object ABI binding"⟩

/-- The descriptor word of the call. -/
def descriptorWord (invocation : Invocation) (state : InvocationState) (layout : DartCallLayout)
    (object : CallObjectLayout) : Result (BitVec 64) :=
  match readVerifiedLocation invocation state layout.argumentsDescriptorLocation false with
  | none =>
    .error ⟨.profileMismatch, "closure ArgumentsDescriptor register is not a tagged object"⟩
  | some raw =>
    if raw = 0 ∨ isHeapWord object.rawObject raw = false then
      .error ⟨.profileMismatch, "closure ArgumentsDescriptor register is not a tagged object"⟩
    else .ok raw

/-- The address of the descriptor, which is a Dart array. -/
def descriptorAddress (invocation : Invocation) (state : InvocationState)
    (object : CallObjectLayout) (raw : BitVec 64) : Result Address :=
  let tags := object.rawObject
  if tags.classIdTagBits = 0 ∨ 64 ≤ tags.classIdTagBits ∨
      64 - tags.classIdTagBits ≤ tags.classIdTagShift then
    .error ⟨.profileMismatch, "closure ArgumentsDescriptor raw-object profile is invalid"⟩
  else
    let address := raw - BitVec.ofNat 64 tags.heapObjectTag
    match readSelfValue invocation state address 8 with
    | none => .error ⟨.profileMismatch, "closure ArgumentsDescriptor object is unreadable"⟩
    | some header =>
      let cid := header / 2 ^ tags.classIdTagShift % 2 ^ tags.classIdTagBits % 2 ^ 32
      if cid ≠ object.cidArray ∧ cid ≠ object.cidImmutableArray then
        .error ⟨.profileMismatch, "closure ArgumentsDescriptor is not a Dart Array"⟩
      else .ok address

/-- The counters of the descriptor. -/
def descriptorCounters (invocation : Invocation) (state : InvocationState)
    (offsets : ArgumentsDescriptorLayout) (tags : RawObjectLayout) (raw address : BitVec 64) :
    Option ArgumentsDescriptorInfo := do
  let counter := fun offset : Nat =>
    readPositiveCompressedSmi invocation state (address + BitVec.ofNat 64 offset) tags
  let typeArgsLen ← counter offsets.typeArgsLenOffset
  let count ← counter offsets.countOffset
  let size ← counter offsets.sizeOffset
  let positionalCount ← counter offsets.positionalCountOffset
  guard (positionalCount ≤ count ∧ count ≤ size)
  return ⟨raw, typeArgsLen, count, size, positionalCount, count - positionalCount⟩

/-- The counters of a call without a signature: one receiver, and the formals. -/
def checkFixedArity (layout : DartCallLayout) (info : ArgumentsDescriptorInfo) : Result Unit :=
  if layout.hasClosureReceiver = true ∧ layout.closureSignature = none then
    if 4294967295 ≤ layout.parameters.length then
      .error ⟨.profileMismatch, "verified closure formal count is invalid"⟩
    else if info.count ≠ layout.parameters.length + 1 ∨
        info.size ≠ layout.parameters.length + 1 ∨
        info.positionalCount ≠ layout.parameters.length + 1 then
      .error ⟨.profileMismatch,
        "closure ArgumentsDescriptor does not match the verified fixed-arity call layout"⟩
    else .ok ()
  else .ok ()

/-- The adapter's own proof of the descriptor, where it gives one. -/
def proveDescriptor (invocation : Invocation) (layout : DartCallLayout) (raw : BitVec 64) :
    Result Unit :=
  if invocation.vmAdapter && invocation.provesCapabilities &&
      (invocation.functionIsLiveVm || layout.vmSemanticObservationReceipt) then
    invocation.descriptorProof raw
  else .ok ()

/-- `dartplant_invocation_get_arguments_descriptor`. -/
def getArgumentsDescriptor (invocation : Invocation) (state : InvocationState) :
    Result ArgumentsDescriptorInfo := do
  let (layout, call, object) ← descriptorLayout invocation
  let raw ← descriptorWord invocation state layout object
  proveDescriptor invocation layout raw
  let address ← descriptorAddress invocation state object raw
  match descriptorCounters invocation state call.argumentsDescriptor object.rawObject raw
      address with
  | none =>
    .error ⟨.profileMismatch, "closure ArgumentsDescriptor counters are inconsistent"⟩
  | some info => do
    checkFixedArity layout info
    return info

/-- `ReadLiveVmHeapBase`. -/
def readLiveVmHeapBase (invocation : Invocation) (state : InvocationState)
    (callProfile : RuntimeProfileRecord) : Option (BitVec 64) :=
  if invocation.liveVmHeapBase ≠ 0 then some invocation.liveVmHeapBase
  else
    let offsets := invocation.callObjectLayout callProfile
    if 31 ≤ offsets.thrRegister ∨ offsets.threadHeapBaseOffset = 0 then none
    else
      let thread := state.context.x offsets.thrRegister
      if 2 ^ 64 ≤ thread.toNat + offsets.threadHeapBaseOffset then none
      else
        match readSelfValue invocation state
            (thread + BitVec.ofNat 64 offsets.threadHeapBaseOffset) 8 with
        | none => none
        | some heapBase => if heapBase = 0 then none else some (BitVec.ofNat 64 heapBase)

/-- `ReadDescriptorNamedEntry`: the position and the name of a named argument. -/
def readDescriptorNamedEntry (invocation : Invocation) (state : InvocationState) (index : Nat) :
    Option (Nat × String) := do
  let layout ← invocation.callLayout
  guard (invocation.profile.isSome ∧ invocation.hasContext = true ∧ invocation.hasFunction = true)
  let callProfile ← layout.vmCallProfile
  let objectProfile ← layout.vmObjectProfile
  let descriptor := (invocation.callObjectLayout callProfile).argumentsDescriptor
  guard (descriptor.namedEntrySize ≠ 0)
  let raw ← readVerifiedLocation invocation state layout.argumentsDescriptorLocation false
  let tags := (invocation.callObjectLayout objectProfile).rawObject
  guard (tags.compressedWordSize = 4 ∧ isHeapWord tags raw = true)
  let object := raw.toNat - tags.heapObjectTag
  let entry := object + descriptor.firstNamedEntryOffset + index * descriptor.namedEntrySize
  guard (entry + descriptor.nameOffset < 2 ^ 64 ∧ entry + descriptor.positionOffset < 2 ^ 64)
  let name ← readSelfValue invocation state (BitVec.ofNat 64 (entry + descriptor.nameOffset)) 4
  let rawPosition ←
    readSelfValue invocation state (BitVec.ofNat 64 (entry + descriptor.positionOffset)) 4
  guard (name &&& tags.smiTagMask = tags.heapObjectTag)
  let position ← decodePositiveCompressedSmi rawPosition tags
  let heapBase ← readLiveVmHeapBase invocation state callProfile
  guard (heapBase.toNat + name < 2 ^ 64)
  let text ← invocation.dartString objectProfile state.memory (heapBase + BitVec.ofNat 64 name)
  return (position, text)

/-! ## The mapping -/

/-- The argument that each formal takes, below zero for none. -/
abbrev ActualForFormal := Nat → Int

/-- The loop over the positional arguments. -/
def placePositional (limit : Nat) (positionalUserCount : Nat) : Except String ActualForFormal :=
  loop (fun placed actual =>
    if limit ≤ actual then
      .error "closure positional argument exceeds FunctionType formals"
    else .ok (Function.update placed actual (toInt32 actual))) (fun _ => -1) positionalUserCount

/-- The first formal of this name. -/
def namedFormal (formals : List DartClosureFormalLayout) (name : String) : Option Nat :=
  formals.findIdx? fun formal => formal.kind == .named && formal.name == name

/-- One turn of the loop over the named arguments. -/
def placeNamedEntry (formals : List DartClosureFormalLayout) (count userArgumentCount : Nat)
    (entry : Nat → Option (Nat × String)) (placed : ActualForFormal) (named : Nat) :
    Except String ActualForFormal :=
  match entry named with
  | none => .error "closure named ArgumentsDescriptor entry is invalid"
  | some (argumentPosition, name) =>
    if argumentPosition = 0 ∨ count ≤ argumentPosition then
      .error "closure named ArgumentsDescriptor entry is invalid"
    else match namedFormal formals name with
      | none => .error "closure named argument does not match FunctionType"
      | some formal =>
        let actual := argumentPosition - 1
        if 0 ≤ placed formal ∨ userArgumentCount ≤ actual then
          .error "closure named argument position is invalid"
        else .ok (Function.update placed formal (toInt32 actual))

/-- The loop over the named arguments. -/
def placeNamed (formals : List DartClosureFormalLayout) (count userArgumentCount : Nat)
    (entry : Nat → Option (Nat × String)) (namedCount : Nat) (placed : ActualForFormal) :
    Except String ActualForFormal :=
  loop (placeNamedEntry formals count userArgumentCount entry) placed namedCount

/-- The loop that checks the formals. -/
def checkFormals (hasNamedOptionalParameters : Bool) (placed : ActualForFormal) :
    Nat → List DartClosureFormalLayout → Except String Unit
  | _, [] => .ok ()
  | index, formal :: rest =>
    if formal.isRequired = true ∧ placed index < 0 then
      .error "closure call omits a required FunctionType parameter"
    else if formal.kind = .named ∧ hasNamedOptionalParameters = false then
      .error "closure FunctionType named-parameter metadata is inconsistent"
    else checkFormals hasNamedOptionalParameters placed (index + 1) rest

/-- The loop that gives each formal its slot of the entry stack. -/
def mapFormals (userArgumentCount : Nat) (placed : ActualForFormal) :
    Nat → List DartParameterLayout → Except String (List DartParameterLayout)
  | _, [] => .ok []
  | index, parameter :: rest =>
    if placed index < 0 then
      (mapFormals userArgumentCount placed (index + 1) rest).map
        (⟨parameter.representation, []⟩ :: ·)
    else
      let offset := ((userArgumentCount : Int) - 1 - placed index) % 2 ^ 32 * 8
      if 2147483647 < offset then .error "closure argument stack offset is out of range"
      else
        (mapFormals userArgumentCount placed (index + 1) rest).map
          (⟨parameter.representation, [.entryStack offset]⟩ :: ·)

/-- The shapes of signature and descriptor that the mapping takes. -/
def checkClosureShape (layout : DartCallLayout) (signature : DartClosureSignatureLayout) :
    Except String Unit :=
  if layout.hasClosureReceiver = false ∨ layout.hasArgumentsDescriptor = false ∨
      signature.implicitParameterCount ≠ 1 ∨
      signature.formals.length ≠ layout.parameters.length ∨
      signature.fixedParameterCount < signature.implicitParameterCount ∨
      (signature.fixedParameterCount - signature.implicitParameterCount +
        signature.optionalParameterCount) % 2 ^ 32 ≠ signature.formals.length then
    .error "closure FunctionType metadata is inconsistent"
  else .ok ()

/-- The checks of the descriptor against the signature. -/
def checkDescriptorShape (signature : DartClosureSignatureLayout) (info : ArgumentsDescriptorInfo) :
    Except String Unit :=
  let userArgumentCount := info.count - 1
  let positionalUserCount := info.positionalCount - 1
  let userFixedCount := signature.fixedParameterCount - signature.implicitParameterCount
  if info.count = 0 ∨ info.size ≠ info.count ∨ info.positionalCount = 0 ∨
      info.count < info.positionalCount then
    .error "closure ArgumentsDescriptor shape is unsupported"
  else if signature.formals.length < userArgumentCount ∨
      (signature.hasNamedOptionalParameters = false ∧ info.namedCount ≠ 0) ∨
      (signature.hasNamedOptionalParameters = true ∧ positionalUserCount ≠ userFixedCount) ∨
      (signature.hasNamedOptionalParameters = false ∧ positionalUserCount ≠ userArgumentCount) ∨
      signature.optionalParameterCount < info.namedCount then
    .error "closure ArgumentsDescriptor does not match FunctionType"
  else if info.typeArgsLen ≠ 0 ∧ info.typeArgsLen ≠ signature.typeParameterCount then
    .error "closure type-argument descriptor is inconsistent"
  else .ok ()

/-- The argument of each formal, from the descriptor and the signature. -/
def placeArguments (signature : DartClosureSignatureLayout) (info : ArgumentsDescriptorInfo)
    (entry : Nat → Option (Nat × String)) : Except String ActualForFormal := do
  let userFixedCount := signature.fixedParameterCount - signature.implicitParameterCount
  let positional ← placePositional ((userFixedCount +
    if signature.hasNamedOptionalParameters then 0 else signature.optionalParameterCount) % 2 ^ 32)
    (info.positionalCount - 1)
  let placed ← placeNamed signature.formals info.count (info.count - 1) entry info.namedCount
    positional
  checkFormals signature.hasNamedOptionalParameters placed 0 signature.formals
  return placed

/-- The type arguments of a generic closure call: where they are, and what they are. -/
def locateTypeArguments (invocation : Invocation) (state : InvocationState)
    (info : ArgumentsDescriptorInfo) : Except String (DartAbiLocation × BitVec 64) :=
  if info.typeArgsLen = 0 then .ok (state.closureMapping.typeArgumentsLocation, 0)
  else if 2147483647 < info.count * 8 then
    .error "closure type-argument stack offset is out of range"
  else match readVerifiedLocation invocation state (.entryStack (info.count * 8)) false with
    | none => .error "closure TypeArguments object is unreadable"
    | some typeArguments => .ok (.entryStack (info.count * 8), typeArguments)

/-- What `EnsureClosureArgumentMapping` finds out when it is first called: the parameters as this
call passes them, and where its type arguments are. -/
def mapClosureArguments (invocation : Invocation) (state : InvocationState)
    (layout : DartCallLayout) (signature : DartClosureSignatureLayout) :
    Except String (List DartParameterLayout × DartAbiLocation) := do
  checkClosureShape layout signature
  let info ← (getArgumentsDescriptor invocation state).mapError
    fun _ => "closure ArgumentsDescriptor shape is unsupported"
  checkDescriptorShape signature info
  let placed ← placeArguments signature info (readDescriptorNamedEntry invocation state)
  let (location, typeArguments) ← locateTypeArguments invocation state info
  if invocation.vmAdapter && layout.vmSemanticObservationReceipt &&
      invocation.provesCapabilities then
    invocation.closureCallProof info.rawDescriptor typeArguments
  let parameters ← mapFormals (info.count - 1) placed 0 layout.parameters
  return (parameters, location)

/-- `EnsureClosureArgumentMapping`: whether the parameters of the call are known, and the state with
the mapping as it is from then on.  A mapping that failed is not tried again, and a location of type
arguments that it may have left is never looked at. -/
def ensureClosureArgumentMapping (invocation : Invocation) (state : InvocationState) :
    Except String Unit × InvocationState :=
  match invocation.callLayout.bind fun layout => layout.closureSignature.map (layout, ·) with
  | none => (.ok (), state)
  | some (layout, signature) =>
    let mapping := state.closureMapping
    if mapping.attempted then
      (if mapping.valid then .ok () else .error "", state)
    else match mapClosureArguments invocation state layout signature with
      | .error message =>
        (.error message, { state with closureMapping := { mapping with attempted := true } })
      | .ok (parameters, location) =>
        (.ok (), { state with closureMapping := ⟨true, true, parameters, location⟩ })

/-- `ActiveParameters`. -/
def activeParameters (invocation : Invocation) (state : InvocationState) :
    Option (List DartParameterLayout) × InvocationState :=
  match ensureClosureArgumentMapping invocation state with
  | (.error _, state) => (none, state)
  | (.ok _, state) =>
    if state.closureMapping.valid then (some state.closureMapping.parameters, state)
    else (invocation.callLayout.map DartCallLayout.parameters, state)

end DartPlant
