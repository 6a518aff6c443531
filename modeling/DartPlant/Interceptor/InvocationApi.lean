import DartPlant.Interceptor.ClosureArguments

/-! # The invocation API

The calls that a callback makes on its invocation.  With a verified call layout they go through the
locations of the layout; else through the legacy mapping of the profile, where it allows them.
-/

namespace DartPlant
open ByteMemory DartPlantRuntimeProfile

/-- A handle of a VM object: what the adapter's check of it says, and its raw word. -/
structure ObjectHandle where
  check : Result Unit
  raw : Result (BitVec 64)

/-- A call that fails. -/
def refuse (state : InvocationState) (status : DartPlantStatus) (message : String) :
    Result Unit × InvocationState :=
  (.error ⟨status, message⟩, state)

/-! ## Verified values -/

/-- The word of a value in a verified location. -/
def encodeVerifiedWord (values : ValidatedValues) (value : DartPlantValue) :
    DartAbiRepresentation → Result (BitVec 64)
  | .tagged => encodeGpSemanticValue values value true
  | .unboxedInt64 =>
    if value.kind ≠ .int64 then
      .error ⟨.profileMismatch, "unboxed int64 locations require DARTPLANT_VALUE_INT64"⟩
    else .ok value.raw
  | .unboxedDouble =>
    if value.kind ≠ .double then
      .error ⟨.profileMismatch, "unboxed double locations require DARTPLANT_VALUE_DOUBLE"⟩
    else .ok value.raw
  | .pairOfTagged => .error ⟨.unsupportedAbi, ""⟩
  | .unknown => .error ⟨.unsupportedAbi, "verified DartCallLayout representation is unknown"⟩

/-- The value of a word in a verified location. -/
def decodeVerifiedWord (values : ValidatedValues) (raw : BitVec 64) :
    DartAbiRepresentation → Result DartPlantValue
  | .tagged => .ok (decodeTagged values raw)
  | .unboxedInt64 => .ok ⟨.int64, 0, raw⟩
  | .unboxedDouble => .ok (decodeFpWord raw)
  | .pairOfTagged => .error ⟨.unsupportedAbi, ""⟩
  | .unknown => .error ⟨.unsupportedAbi, "verified DartCallLayout representation is unknown"⟩

/-- The only location of a slot that is not a pair. -/
def slotLocation (layout : DartParameterLayout) : Result DartAbiLocation :=
  if layout.representation = .pairOfTagged then
    .error ⟨.unsupportedAbi, "pair-of-tagged result requires the pair result API"⟩
  else match layout.locations with
    | [location] =>
      if location = .unknown then
        .error ⟨.profileMismatch, "verified DartCallLayout slot is invalid"⟩
      else .ok location
    | _ => .error ⟨.profileMismatch, "verified DartCallLayout slot is invalid"⟩

/-- `DecodeVerifiedValue`. -/
def decodeVerifiedValue (invocation : Invocation) (state : InvocationState)
    (layout : DartParameterLayout) (isResult : Bool) : Result DartPlantValue := do
  let location ← slotLocation layout
  match readVerifiedLocation invocation state location isResult with
  | none => .error ⟨.profileMismatch, "verified DartCallLayout location is unreadable"⟩
  | some raw => decodeVerifiedWord invocation.values raw layout.representation

/-- A write to a verified location, and the error when it fails. -/
def storeVerified (invocation : Invocation) (state : InvocationState) (location : DartAbiLocation)
    (raw : BitVec 64) (isResult : Bool) (message : String) : Result Unit × InvocationState :=
  let (written, state) := writeVerifiedLocation invocation state location raw isResult
  if written then (.ok (), state) else refuse state .profileMismatch message

/-- `EncodeVerifiedValue`. -/
def encodeVerifiedValue (invocation : Invocation) (state : InvocationState)
    (layout : DartParameterLayout) (value : DartPlantValue) (isResult : Bool) :
    Result Unit × InvocationState :=
  match slotLocation layout with
  | .error failure => (.error failure, state)
  | .ok location =>
    match encodeVerifiedWord invocation.values value layout.representation with
    | .error failure => (.error failure, state)
    | .ok raw => storeVerified invocation state location raw isResult
        "verified DartCallLayout location is unwritable"

/-- The words of a pair. -/
def encodePairWords (values : ValidatedValues) (value : DartPlantValuePair) :
    Result (BitVec 64 × BitVec 64) := do
  let first ← encodeGpSemanticValue values value.first true
  let second ← encodeGpSemanticValue values value.second true
  return (first, second)

/-- `EncodeVerifiedTaggedPair`: the second word is written after the first. -/
def encodeVerifiedTaggedPair (invocation : Invocation) (state : InvocationState)
    (layout : DartParameterLayout) (value : DartPlantValuePair) (isResult : Bool) :
    Result Unit × InvocationState :=
  match layout.representation, layout.locations with
  | .pairOfTagged, [firstLocation, secondLocation] =>
    match encodePairWords invocation.values value with
    | .error failure => (.error failure, state)
    | .ok (first, second) =>
      match writeVerifiedLocation invocation state firstLocation first isResult with
      | (false, state) =>
        refuse state .profileMismatch "verified pair result location is unwritable"
      | (true, state) => storeVerified invocation state secondLocation second isResult
          "verified pair result location is unwritable"
  | _, _ => refuse state .unsupportedAbi "verified pair result layout is invalid"

/-! ## The legacy mapping -/

/-- `ReadLocation`. -/
def readLocation (state : InvocationState) : DartPlantAbiLocation → Option (BitVec 64)
  | .fpRegister index => if index < 32 then some (lowWord (state.context.v index)) else none
  | .gpRegister index => if validRegister index then some (state.context.x index) else none

/-- `WriteLocation`. -/
def writeLocation (state : InvocationState) (value : BitVec 64) :
    DartPlantAbiLocation → Option InvocationState
  | .fpRegister index =>
    if index < 32 then some { state with context := state.context.setV index value } else none
  | .gpRegister index =>
    if validRegister index then some { state with context := state.context.setX index value }
    else none

/-- The word of a value in a place of the legacy mapping. -/
def encodeLegacyWord (values : ValidatedValues) (value : DartPlantValue) (isTagged : Bool) :
    DartPlantAbiLocation → Result (BitVec 64)
  | .fpRegister _ => encodeFpWord value
  | .gpRegister _ => encodeGpSemanticValue values value isTagged

def decodeLegacyWord (values : ValidatedValues) (raw : BitVec 64) (isTagged : Bool) :
    DartPlantAbiLocation → DartPlantValue
  | .fpRegister _ => decodeFpWord raw
  | .gpRegister _ => refineTaggedSemanticValue values (decodeGpWord raw isTagged values.null)

/-- A value written through the legacy mapping. -/
def encodeLegacyValue (invocation : Invocation) (state : InvocationState) (value : DartPlantValue)
    (isTagged : Bool) (location : DartPlantAbiLocation) : Result Unit × InvocationState :=
  match encodeLegacyWord invocation.values value isTagged location with
  | .error failure => (.error failure, state)
  | .ok raw =>
    match writeLocation state raw location with
    | none => refuse state .profileMismatch ""
    | some state => (.ok (), state)

/-- An object written through the legacy mapping. -/
def storeLegacyObject (state : InvocationState) (raw : BitVec 64)
    (location : DartPlantAbiLocation) (message : String) : Result Unit × InvocationState :=
  match location with
  | .fpRegister _ => refuse state .profileMismatch message
  | .gpRegister _ =>
    match writeLocation state raw location with
    | none => refuse state .profileMismatch ""
    | some state => (.ok (), state)

/-! ## Access -/

/-- `ArgumentAccessEnabled`. -/
def Invocation.argumentAccess (invocation : Invocation) : Bool :=
  invocation.callLayout.isSome || invocation.profile.any rawGpArguments

/-- `ResultAccessEnabled`. -/
def Invocation.resultAccess (invocation : Invocation) : Bool :=
  invocation.callLayout.isSome || invocation.profile.any rawGpResult

/-- `LegacyTaggedArgumentAccessEnabled`. -/
def Invocation.legacyTaggedArguments (invocation : Invocation) : Bool :=
  invocation.argumentAccess && invocation.profile.any taggedGpArguments

/-- `LegacyTaggedResultAccessEnabled`. -/
def Invocation.legacyTaggedResult (invocation : Invocation) : Bool :=
  invocation.resultAccess && invocation.profile.any taggedGpResult

/-- `dartplant_invocation_argument_count`. -/
def Invocation.argumentCount (invocation : Invocation) : Nat :=
  if invocation.argumentAccess = false then 0
  else match invocation.callLayout with
    | some layout => layout.parameters.length
    | none => invocation.profile.elim 0 DartPlantRuntimeProfile.argumentCount

/-- The place of an argument in the legacy mapping. -/
def Invocation.legacyArgument (invocation : Invocation) (index : Nat) : DartPlantAbiLocation :=
  invocation.profile.elim (.gpRegister 31) (·.argumentLocations index)

def Invocation.legacyResult (invocation : Invocation) : DartPlantAbiLocation :=
  invocation.profile.elim (.gpRegister 31) resultLocation

/-- `ArgumentIsTagged`. -/
def argumentIsTagged (invocation : Invocation) (state : InvocationState) (index : Nat) :
    Bool × InvocationState :=
  if invocation.callLayout.isSome then
    let (parameters, state) := activeParameters invocation state
    (parameters.any fun parameters =>
      parameters[index]?.any (·.representation == .tagged), state)
  else (invocation.legacyTaggedArguments, state)

/-- `ResultIsTagged`. -/
def Invocation.resultIsTagged (invocation : Invocation) : Bool :=
  match invocation.callLayout with
  | some layout => layout.result.representation == .tagged
  | none => invocation.legacyTaggedResult

/-! ## Arguments -/

/-- `dartplant_invocation_get_argument`. -/
def getArgument (invocation : Invocation) (state : InvocationState) (index : Nat) :
    Result DartPlantValue × InvocationState :=
  if invocation.phase = .exception then
    (.error ⟨.invalidInvocationPhase,
      "ordinary arguments are unavailable during exception callbacks; use exception APIs"⟩, state)
  else if invocation.argumentAccess = false ∨ invocation.hasContext = false ∨
      invocation.argumentCount ≤ index then
    (.error ⟨.unsupportedAbi, "argument decoding is not enabled by the profile"⟩, state)
  else if invocation.callLayout.isSome then
    match activeParameters invocation state with
    | (none, state) => (.error ⟨.profileMismatch, ""⟩, state)
    | (some parameters, state) =>
      match parameters[index]? with
      | none => (.error ⟨.profileMismatch, ""⟩, state)
      | some parameter => (decodeVerifiedValue invocation state parameter false, state)
  else
    match readLocation state (invocation.legacyArgument index) with
    | none => (.error ⟨.profileMismatch, "profile argument register is invalid"⟩, state)
    | some raw => (.ok (decodeLegacyWord invocation.values raw invocation.legacyTaggedArguments
        (invocation.legacyArgument index)), state)

/-- `dartplant_invocation_set_argument`. -/
def setArgument (invocation : Invocation) (state : InvocationState) (index : Nat)
    (value : Option DartPlantValue) : Result Unit × InvocationState :=
  match value with
  | none => refuse state .unsupportedAbi "argument encoding is not enabled by the profile"
  | some value =>
    if invocation.argumentAccess = false ∨ invocation.hasContext = false ∨
        invocation.argumentCount ≤ index then
      refuse state .unsupportedAbi "argument encoding is not enabled by the profile"
    else if invocation.phase ≠ .enter then
      refuse state .invalidInvocationPhase "arguments can only be changed during enter"
    else if invocation.callLayout.isSome then
      match activeParameters invocation state with
      | (none, state) => refuse state .profileMismatch ""
      | (some parameters, state) =>
        match parameters[index]? with
        | none => refuse state .profileMismatch ""
        | some parameter => encodeVerifiedValue invocation state parameter value false
    else encodeLegacyValue invocation state value invocation.legacyTaggedArguments
      (invocation.legacyArgument index)

/-- The raw word of a handle that the adapter takes. -/
def handleWord (handle : ObjectHandle) : Result (BitVec 64) := do
  handle.check
  handle.raw

/-- `dartplant_invocation_set_argument_object`. -/
def setArgumentObject (invocation : Invocation) (state : InvocationState) (index : Nat)
    (handle : Option ObjectHandle) : Result Unit × InvocationState :=
  match argumentIsTagged invocation state index, handle with
  | (false, state), _ | (_, state), none =>
    refuse state .invalidArgument "object argument write arguments are invalid"
  | (true, state), some handle =>
    if invocation.hasContext = false ∨ invocation.argumentCount ≤ index then
      refuse state .invalidArgument "object argument write arguments are invalid"
    else if invocation.phase ≠ .enter then
      refuse state .invalidInvocationPhase "arguments can only be changed during enter"
    else if invocation.vmAdapter = false then
      refuse state .vmBridgeUnavailable "invocation has no VM object adapter"
    else match handleWord handle with
    | .error failure => (.error failure, state)
    | .ok raw =>
      if invocation.callLayout.isSome then
        match activeParameters invocation state with
        | (none, state) => refuse state .profileMismatch ""
        | (some parameters, state) =>
          match (parameters[index]?).map DartParameterLayout.locations with
          | some [location] => storeVerified invocation state location raw false ""
          | _ => refuse state .profileMismatch ""
      else storeLegacyObject state raw (invocation.legacyArgument index)
        "FP arguments cannot be set from VM objects"

/-! ## Results -/

/-- A result given during enter stands for the original. -/
def skipAfter (invocation : Invocation) (state : InvocationState) : InvocationState :=
  if invocation.phase = .enter then { state with skipOriginal := true, callOriginal := false }
  else state

/-- The write of `dartplant_invocation_set_result`. -/
def writeResult (invocation : Invocation) (state : InvocationState) (value : DartPlantValue) :
    Result Unit × InvocationState :=
  match invocation.callLayout with
  | some layout => encodeVerifiedValue invocation state layout.result value true
  | none => encodeLegacyValue invocation state value invocation.legacyTaggedResult
      invocation.legacyResult

/-- `dartplant_invocation_set_result`: the phase is looked at after the write. -/
def setResult (invocation : Invocation) (state : InvocationState) (value : Option DartPlantValue) :
    Result Unit × InvocationState :=
  match value with
  | none => refuse state .unsupportedAbi "result encoding is not enabled by the profile"
  | some value =>
    if invocation.resultAccess = false ∨ invocation.hasContext = false then
      refuse state .unsupportedAbi "result encoding is not enabled by the profile"
    else match writeResult invocation state value with
      | (.error failure, state) => (.error failure, state)
      | (.ok _, state) =>
        if invocation.phase = .exception then
          refuse state .invalidInvocationPhase "result cannot be changed in this phase"
        else (.ok (), skipAfter invocation state)

/-- `dartplant_invocation_set_result_pair`. -/
def setResultPair (invocation : Invocation) (state : InvocationState)
    (value : Option DartPlantValuePair) : Result Unit × InvocationState :=
  match invocation.callLayout, value with
  | some layout, some value =>
    if invocation.hasContext = false then
      refuse state .unsupportedAbi "pair result encoding requires a verified DartCallLayout"
    else if invocation.phase = .exception then
      refuse state .invalidInvocationPhase "pair result cannot be changed in this phase"
    else match encodeVerifiedTaggedPair invocation state layout.result value true with
      | (.error failure, state) => (.error failure, state)
      | (.ok _, state) => (.ok (), skipAfter invocation state)
  | _, _ => refuse state .unsupportedAbi "pair result encoding requires a verified DartCallLayout"

/-- The write of `dartplant_invocation_set_result_object`. -/
def writeResultObject (invocation : Invocation) (state : InvocationState) (raw : BitVec 64) :
    Result Unit × InvocationState :=
  match invocation.callLayout with
  | some layout =>
    match layout.result.locations with
    | [location] => storeVerified invocation state location raw true ""
    | _ => refuse state .profileMismatch ""
  | none => storeLegacyObject state raw invocation.legacyResult
      "FP results cannot be set from VM objects"

/-- `dartplant_invocation_set_result_object`. -/
def setResultObject (invocation : Invocation) (state : InvocationState)
    (handle : Option ObjectHandle) : Result Unit × InvocationState :=
  match handle with
  | none => refuse state .invalidArgument "object result write arguments are invalid"
  | some handle =>
    if invocation.resultIsTagged = false ∨ invocation.hasContext = false then
      refuse state .invalidArgument "object result write arguments are invalid"
    else if invocation.phase = .exception then
      refuse state .invalidInvocationPhase "result cannot be changed in this phase"
    else if invocation.vmAdapter = false then
      refuse state .vmBridgeUnavailable "invocation has no VM object adapter"
    else match handleWord handle with
      | .error failure => (.error failure, state)
      | .ok raw =>
        match writeResultObject invocation state raw with
        | (.error failure, state) => (.error failure, state)
        | (.ok _, state) => (.ok (), skipAfter invocation state)

/-! ## Registers and the original -/

/-- `dartplant_invocation_set_gp_register`. -/
def setGpRegister (invocation : Invocation) (state : InvocationState) (index : Nat)
    (value : BitVec 64) : Result Unit × InvocationState :=
  if invocation.hasContext = false ∨ validRegister index = false then
    refuse state .invalidArgument "GP register write arguments are invalid"
  else if invocation.phase = .exception then
    refuse state .invalidInvocationPhase
      "raw registers cannot be changed during exception callbacks"
  else (.ok (), { state with context := state.context.setX index value })

/-- `dartplant_invocation_set_fp_register`. -/
def setFpRegister (invocation : Invocation) (state : InvocationState) (index : Nat)
    (value : BitVec 64) : Result Unit × InvocationState :=
  if invocation.hasContext = false ∨ 32 ≤ index then
    refuse state .invalidArgument "FP register write arguments are invalid"
  else if invocation.phase = .exception then
    refuse state .invalidInvocationPhase
      "raw registers cannot be changed during exception callbacks"
  else (.ok (), { state with context := state.context.setV index value })

/-- `dartplant_invocation_skip_original`. -/
def skipOriginal (invocation : Invocation) (state : InvocationState) :
    Result Unit × InvocationState :=
  if invocation.phase ≠ .enter then
    refuse state .invalidInvocationPhase "original can only be skipped during enter"
  else (.ok (), { state with skipOriginal := true, callOriginal := false })

/-- A call by which a callback changes its invocation. -/
inductive SetterCall where
  | setArgument (index : Nat) (value : Option DartPlantValue)
  | setArgumentObject (index : Nat) (handle : Option ObjectHandle)
  | setResult (value : Option DartPlantValue)
  | setResultPair (value : Option DartPlantValuePair)
  | setResultObject (handle : Option ObjectHandle)
  | setGpRegister (index : Nat) (value : BitVec 64)
  | setFpRegister (index : Nat) (value : BitVec 64)
  | skipOriginal

/-- What the call returns, and the state that it leaves. -/
def SetterCall.run (invocation : Invocation) (state : InvocationState) :
    SetterCall → Result Unit × InvocationState
  | .setArgument index value => DartPlant.setArgument invocation state index value
  | .setArgumentObject index handle => DartPlant.setArgumentObject invocation state index handle
  | .setResult value => DartPlant.setResult invocation state value
  | .setResultPair value => DartPlant.setResultPair invocation state value
  | .setResultObject handle => DartPlant.setResultObject invocation state handle
  | .setGpRegister index value => DartPlant.setGpRegister invocation state index value
  | .setFpRegister index value => DartPlant.setFpRegister invocation state index value
  | .skipOriginal => DartPlant.skipOriginal invocation state

end DartPlant
