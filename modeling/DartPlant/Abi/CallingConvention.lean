import DartPlant.Abi.EvidenceSolver

/-! # From resolved evidence to a call layout

`ComputeDartCallLayout` mirrors the compiler's assignment of arguments to registers and entry stack
slots.  It fails closed: `computeDartCallLayout_ok_iff` lists everything a layout takes.
-/

namespace DartPlant

structure DartCallingConventionProfile where
  wordSize : Nat := 0
  dartSpRegister : Nat := 0
  gpArgumentRegisters : List Nat := []
  fpuArgumentRegisters : List Nat := []
  taggedResultGpRegister : Nat := 0
  unboxedInt64ResultGpRegister : Nat := 0
  unboxedDoubleResultFpuRegister : Nat := 0
  pairOfTaggedResultGpRegisters : Nat × Nat := (0, 0)
  fpToEntrySpSlotDelta : Int := 0
  deriving DecidableEq, Repr

/-- `Arm64AotCallingConventionProfile`. -/
def arm64AotCallingConventionProfile : DartCallingConventionProfile where
  wordSize := 8
  dartSpRegister := 15
  gpArgumentRegisters := [1, 2, 3, 5, 6, 7]
  fpuArgumentRegisters := [0, 1, 2, 3, 4, 5]
  taggedResultGpRegister := 0
  unboxedInt64ResultGpRegister := 0
  unboxedDoubleResultFpuRegister := 0
  pairOfTaggedResultGpRegisters := (0, 1)
  fpToEntrySpSlotDelta := 2

/-- `ValidateProfile`; the argument registers of a profile fit their arrays of eight. -/
def validateProfile (profile : DartCallingConventionProfile) : Bool :=
  profile.wordSize != 0 && decide (profile.wordSize ≤ 2147483647) &&
    decide (profile.gpArgumentRegisters.length ≤ 8) &&
    decide (profile.fpuArgumentRegisters.length ≤ 8)

/-- `IsSupportedParameterRepresentation`. -/
def isSupportedParameterRepresentation : DartAbiRepresentation → Bool
  | .tagged | .unboxedInt64 | .unboxedDouble => true
  | .unknown | .pairOfTagged => false

/-- `IsSupportedResultRepresentation`. -/
def isSupportedResultRepresentation (representation : DartAbiRepresentation) : Bool :=
  isSupportedParameterRepresentation representation || representation == .pairOfTagged

/-- The first loop: the register of each parameter that gets one, from the argument registers left.
Only the first `limit` parameters may. -/
def assignRegisters : Nat → List Nat → List Nat → List DartAbiRepresentation →
    List (Option DartAbiLocation)
  | _, _, _, [] => []
  | 0, gp, fpu, _ :: rest => none :: assignRegisters 0 gp fpu rest
  | limit + 1, gp, fpu, representation :: rest =>
    match representation, gp, fpu with
    | .tagged, register :: gp, fpu | .unboxedInt64, register :: gp, fpu =>
      some (.gpRegister register) :: assignRegisters limit gp fpu rest
    | .unboxedDouble, gp, register :: fpu =>
      some (.fpuRegister register) :: assignRegisters limit gp fpu rest
    | _, gp, fpu => none :: assignRegisters limit gp fpu rest

/-- The second loop, which runs from the last parameter to the first: a slot for each parameter that
has no register, and the next FP slot. -/
def assignStack (profile : DartCallingConventionProfile) :
    List (Option DartAbiLocation) → List DartAbiLocation × Int
  | [] => ([], profile.fpToEntrySpSlotDelta)
  | some location :: rest =>
    let (locations, fpSlot) := assignStack profile rest
    (location :: locations, fpSlot)
  | none :: rest =>
    let (locations, fpSlot) := assignStack profile rest
    (.entryStack ((fpSlot - profile.fpToEntrySpSlotDelta) * profile.wordSize) :: locations,
      fpSlot + 1)

/-- The locations of a result. -/
def resultLocations (profile : DartCallingConventionProfile) :
    DartAbiRepresentation → List DartAbiLocation
  | .tagged => [.gpRegister profile.taggedResultGpRegister]
  | .unboxedInt64 => [.gpRegister profile.unboxedInt64ResultGpRegister]
  | .unboxedDouble => [.fpuRegister profile.unboxedDoubleResultFpuRegister]
  | .pairOfTagged => [.gpRegister profile.pairOfTaggedResultGpRegisters.1,
      .gpRegister profile.pairOfTaggedResultGpRegisters.2]
  | .unknown => []

/-- The layout of parameters and result whose representations are known. -/
def layoutOf (profile : DartCallingConventionProfile) (limit : Nat)
    (parameters : List DartAbiRepresentation) (result : DartAbiRepresentation) : DartCallLayout :=
  let registers := assignRegisters limit profile.gpArgumentRegisters profile.fpuArgumentRegisters
    parameters
  { parameters := List.zipWith (fun representation location => ⟨representation, [location]⟩)
      parameters (assignStack profile registers).1
    result := ⟨result, resultLocations profile result⟩
    stackWords := registers.countP Option.isNone
    dartSpRegister := profile.dartSpRegister }

/-- `ComputeDartCallLayout`. -/
def computeDartCallLayout (abi : DartFunctionAbiResolution)
    (profile : DartCallingConventionProfile) (closureCall : Bool) :
    DartCallLayoutStatus × DartCallLayout :=
  if validateProfile profile = false then (.invalidCallingConvention, {})
  else if abi.conflicting then (.conflictingEvidence, {})
  else if abi.result.isProven = false ∨
      abi.parameters.any (fun slot => !slot.isProven) = true ∨
      abi.hasStackCallingConvention = false ∨ abi.hasOptionalParameterInfo = false ∨
      abi.hasMaxParametersInRegisters = false then
    (.incompleteEvidence, {})
  else if abi.hasOptionalParameters = true ∧ closureCall = false then
    (.optionalArgumentsUnsupported, {})
  else if isSupportedResultRepresentation abi.result.representation = false ∨
      abi.parameters.any (fun slot =>
        !isSupportedParameterRepresentation slot.representation) = true then
    (.unsupportedRepresentation, {})
  else
    let registerLimit := if abi.mustUseStackCallingConvention then 0
      else abi.maxParametersInRegisters
    (.ok, layoutOf profile registerLimit
      (abi.parameters.map DartAbiResolvedSlot.representation) abi.result.representation)

/-! ## What a layout takes -/

/-- The resolution that a layout is computed from. -/
structure LayoutReady (abi : DartFunctionAbiResolution) (closureCall : Bool) : Prop where
  conflicting : abi.conflicting = false
  result : abi.result.isProven = true
  parameters : ∀ slot ∈ abi.parameters, slot.isProven = true
  stackCc : abi.hasStackCallingConvention = true
  optionalInfo : abi.hasOptionalParameterInfo = true
  maxRegs : abi.hasMaxParametersInRegisters = true
  optional : abi.hasOptionalParameters = true → closureCall = true
  resultSupported : isSupportedResultRepresentation abi.result.representation = true
  parametersSupported : ∀ slot ∈ abi.parameters,
    isSupportedParameterRepresentation slot.representation = true

theorem computeDartCallLayout_ok_iff {abi : DartFunctionAbiResolution}
    {profile : DartCallingConventionProfile} (hprofile : validateProfile profile = true)
    {closureCall : Bool} :
    (computeDartCallLayout abi profile closureCall).1 = .ok ↔ LayoutReady abi closureCall := by
  have hany : ∀ f : DartAbiResolvedSlot → Bool,
      abi.parameters.any (fun slot => !f slot) = false ↔ ∀ slot ∈ abi.parameters, f slot = true := by
    intro f
    simp only [List.any_eq_false, Bool.not_eq_true', Bool.not_eq_false]
  unfold computeDartCallLayout
  rw [if_neg (by rw [hprofile]; exact Bool.noConfusion)]
  constructor
  · intro h
    split at h
    · cases h
    next hconflicting =>
      split at h
      · cases h
      next hproven =>
        split at h
        · cases h
        next hoptional =>
          split at h
          · cases h
          next hsupported =>
            push Not at hproven hoptional hsupported
            simp only [ne_eq, Bool.not_eq_false, Bool.not_eq_true] at hproven hoptional hsupported
            obtain ⟨hresult, hparameters, hstack, hinfo, hregs⟩ := hproven
            exact ⟨Bool.not_eq_true _ ▸ hconflicting, hresult, (hany _).mp hparameters, hstack,
              hinfo, hregs, hoptional, hsupported.1, (hany _).mp hsupported.2⟩
  · intro h
    rw [if_neg (by rw [h.conflicting]; exact Bool.noConfusion), if_neg, if_neg, if_neg]
    · rintro (hunsupported | hunsupported)
      · rw [h.resultSupported] at hunsupported
        cases hunsupported
      · rw [(hany _).mpr h.parametersSupported] at hunsupported
        cases hunsupported
    · rintro ⟨hoptional, hcall⟩
      rw [h.optional hoptional] at hcall
      cases hcall
    · rintro (hmissing | hmissing | hmissing | hmissing | hmissing)
      · rw [h.result] at hmissing
        cases hmissing
      · rw [(hany _).mpr h.parameters] at hmissing
        cases hmissing
      · rw [h.stackCc] at hmissing
        cases hmissing
      · rw [h.optionalInfo] at hmissing
        cases hmissing
      · rw [h.maxRegs] at hmissing
        cases hmissing

end DartPlant
