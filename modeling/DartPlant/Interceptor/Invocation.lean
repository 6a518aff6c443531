import DartPlant.Abi.CallLayout
import DartPlant.Abi.ValueCodec
import DartPlant.Lib.ByteMemory
import Mathlib.Logic.Function.Basic

/-! # An invocation

What a callback works on: the saved registers of the call, the entry stack in memory and, while a
bridge to native code is active, the roots that the VM keeps of tagged words.  A location that is
rooted is read from its root; it is written to both places.
-/

namespace DartPlant
open ByteMemory

inductive DartPlantInvocationPhase where
  | enter
  | leave
  | exception
  deriving DecidableEq, Repr

/-- The saved registers, as far as the invocation API reaches them. -/
structure DartPlantArm64Context where
  x : Nat → BitVec 64
  v : Nat → BitVec 128

/-- A place in the legacy mapping of a profile. -/
inductive DartPlantAbiLocation where
  | gpRegister (index : Nat)
  | fpRegister (index : Nat)
  deriving DecidableEq, Repr

/-- The legacy mapping of a profile: its flags, and the places of arguments and result. -/
structure DartPlantRuntimeProfile where
  rawGpArguments : Bool
  rawGpResult : Bool
  taggedGpArguments : Bool
  taggedGpResult : Bool
  argumentCount : Nat
  argumentLocations : Nat → DartPlantAbiLocation
  resultLocation : DartPlantAbiLocation

/-- `GeneratedRootAccess`: which root stands for a location, as an argument or as a result. -/
structure GeneratedRootAccess where
  location : DartAbiLocation
  rootIndex : Nat
  isResult : Bool
  deriving DecidableEq, Repr

inductive GeneratedRootRole where
  | padding
  | input
  | typeArgument
  | result
  deriving DecidableEq, Repr

/-- A root of the bridge, and the location whose word it holds. -/
structure GeneratedRootBinding where
  location : DartAbiLocation
  role : GeneratedRootRole
  deriving DecidableEq, Repr

/-- The locations that `AddGeneratedRootBinding` takes. -/
def DartAbiLocation.rootable : DartAbiLocation → Bool
  | .gpRegister _ | .entryStack _ => true
  | .fpuRegister _ | .unknown => false

/-- The bindings of a bridge: a vector register never has one. -/
def RootBindings (bindings : List GeneratedRootBinding) : Prop :=
  ∀ binding ∈ bindings, binding.role = .input ∨ binding.role = .result →
    binding.location.rootable = true

/-- The last loop of `BuildGeneratedRootBindings`: each root that has a location, under its index. -/
def rootAccesses (bindings : List GeneratedRootBinding) : List GeneratedRootAccess :=
  bindings.zipIdx.filterMap fun (binding, index) =>
    match binding.role with
    | .padding | .typeArgument => none
    | .input => some ⟨binding.location, index, false⟩
    | .result => some ⟨binding.location, index, true⟩

theorem rootAccesses_rootable {bindings : List GeneratedRootBinding} (h : RootBindings bindings)
    {access : GeneratedRootAccess} (haccess : access ∈ rootAccesses bindings) :
    access.location.rootable = true := by
  obtain ⟨⟨binding, index⟩, hbinding, haccess⟩ := List.mem_filterMap.mp haccess
  have hmem : binding ∈ bindings :=
    List.mem_of_getElem? (List.mem_zipIdx_iff_getElem?.mp hbinding)
  dsimp only at haccess
  split at haccess
  · cases haccess
  · cases haccess
  next hrole =>
    rw [← Option.some.inj haccess]
    exact h binding hmem (Or.inl hrole)
  next hrole =>
    rw [← Option.some.inj haccess]
    exact h binding hmem (Or.inr hrole)

/-- A root stands for one location. -/
theorem rootAccesses_apart {bindings : List GeneratedRootBinding} {left right : GeneratedRootAccess}
    (hleft : left ∈ rootAccesses bindings) (hright : right ∈ rootAccesses bindings)
    (h : left.rootIndex = right.rootIndex) : left = right := by
  obtain ⟨⟨binding, index⟩, hbinding, haccess⟩ := List.mem_filterMap.mp hleft
  obtain ⟨⟨binding', index'⟩, hbinding', haccess'⟩ := List.mem_filterMap.mp hright
  have hindex : ∀ (binding : GeneratedRootBinding) (index : Nat) (access : GeneratedRootAccess),
      (match binding.role with
        | .padding | .typeArgument => none
        | .input => some ⟨binding.location, index, false⟩
        | .result => some ⟨binding.location, index, true⟩) = some access →
      access.rootIndex = index := by
    intro binding index access h
    split at h
    · cases h
    · cases h
    · rw [← Option.some.inj h]
    · rw [← Option.some.inj h]
  have hsame : index = index' :=
    (hindex binding index left haccess).symm.trans (h.trans (hindex binding' index' right haccess'))
  subst hsame
  rw [List.mem_zipIdx_iff_getElem?] at hbinding hbinding'
  obtain rfl := Option.some.inj (hbinding.symm.trans hbinding')
  exact Option.some.inj (haccess.symm.trans haccess')

/-- The mapping of closure formals to slots of this call, made once. -/
structure ClosureMapping where
  attempted : Bool := false
  valid : Bool := false
  parameters : List DartParameterLayout := []
  typeArgumentsLocation : DartAbiLocation := .unknown
  deriving DecidableEq, Repr

/-- What a callback may change. -/
structure InvocationState where
  context : DartPlantArm64Context
  memory : Memory
  roots : List (BitVec 64)
  skipOriginal : Bool
  callOriginal : Bool
  closureMapping : ClosureMapping

structure RawObjectLayout where
  heapObjectTag : Nat
  smiTag : Nat
  smiTagMask : Nat
  smiTagShift : Nat
  classIdTagShift : Nat
  classIdTagBits : Nat
  compressedWordSize : Nat
  deriving DecidableEq, Repr

structure ArgumentsDescriptorLayout where
  typeArgsLenOffset : Nat
  countOffset : Nat
  sizeOffset : Nat
  positionalCountOffset : Nat
  firstNamedEntryOffset : Nat
  namedEntrySize : Nat
  nameOffset : Nat
  positionOffset : Nat
  deriving DecidableEq, Repr

/-- The offsets and tags that a registered profile records of the objects of a call. -/
structure CallObjectLayout where
  rawObject : RawObjectLayout
  argumentsDescriptor : ArgumentsDescriptorLayout
  cidArray : Nat
  cidImmutableArray : Nat
  thrRegister : Nat
  threadHeapBaseOffset : Nat
  deriving DecidableEq, Repr

/-- What is fixed for the callbacks of one invocation. -/
structure Invocation where
  callLayout : Option DartCallLayout
  profile : Option DartPlantRuntimeProfile
  hasContext : Bool := true
  phase : DartPlantInvocationPhase
  vmAdapter : Bool := false
  generatedVmBridgeActive : Bool := false
  generatedRootLease : Bool := false
  generatedRootAccesses : List GeneratedRootAccess := []
  -- The adapter's own checks before it lets a root be read or written.
  rootStatus : DartPlantStatus := .ok
  runtimeGeneration : Option (BitVec 64) := none
  expectedRuntimeGeneration : BitVec 64 := 0
  validated : ValidatedValues := {}
  liveVmHeapBase : BitVec 64 := 0
  -- The requested method has a function, and one of a live VM.
  hasFunction : Bool := false
  functionIsLiveVm : Bool := false
  -- What the process may read, the records of its profiles and its Dart strings.
  readable : Address → Nat → Bool := fun _ _ => false
  callObjectLayout : RuntimeProfileRecord → CallObjectLayout
  dartString : RuntimeProfileRecord → Memory → BitVec 64 → Option String := fun _ _ _ => none
  -- The adapter's proofs of the arguments descriptor and of the closure call, where it gives any.
  provesCapabilities : Bool := false
  descriptorProof : BitVec 64 → Result Unit := fun _ => .ok ()
  closureCallProof : BitVec 64 → BitVec 64 → Except String Unit := fun _ _ => .ok ()

/-- `ActiveValidatedNullValue` and the check of `ActiveValidatedBoolValues`: the words count in the
generation in which they were validated only. -/
def Invocation.values (invocation : Invocation) : ValidatedValues :=
  match invocation.runtimeGeneration with
  | none => invocation.validated
  | some generation =>
    if generation = invocation.expectedRuntimeGeneration then invocation.validated else {}

/-- `ValidRegister`. -/
def validRegister (index : Nat) : Bool := index < 31

/-! ## Registers -/

/-- The low word of a vector register. -/
def lowWord (vector : BitVec 128) : BitVec 64 := vector.extractLsb' 0 64

/-- The vector with another low word. -/
def withLowWord (vector : BitVec 128) (value : BitVec 64) : BitVec 128 :=
  (vector.extractLsb' 64 64 ++ value : BitVec (64 + 64))

@[simp] theorem lowWord_withLowWord (vector : BitVec 128) (value : BitVec 64) :
    lowWord (withLowWord vector value) = value := by
  apply BitVec.eq_of_getLsbD_eq
  intro index hindex
  rw [lowWord, withLowWord, BitVec.getLsbD_extractLsb', Nat.zero_add, BitVec.getLsbD_append,
    if_pos hindex, decide_eq_true hindex, Bool.true_and]

theorem withLowWord_lowWord (vector : BitVec 128) :
    withLowWord vector (lowWord vector) = vector := by
  apply BitVec.eq_of_getLsbD_eq
  intro index hindex
  simp only [withLowWord, lowWord, BitVec.getLsbD_append, BitVec.getLsbD_extractLsb']
  split
  · simp_all
  · have : 64 + (index - 64) = index := by omega
    have hlt : index - 64 < 64 := by omega
    simp [this, hlt]

def DartPlantArm64Context.setX (context : DartPlantArm64Context) (index : Nat)
    (value : BitVec 64) : DartPlantArm64Context :=
  { context with x := Function.update context.x index value }

def DartPlantArm64Context.setV (context : DartPlantArm64Context) (index : Nat)
    (value : BitVec 64) : DartPlantArm64Context :=
  { context with v := Function.update context.v index (withLowWord (context.v index) value) }

/-! ## Verified locations -/

/-- The roots stand in for the locations that have one. -/
def Invocation.rooted (invocation : Invocation) : Bool :=
  invocation.generatedVmBridgeActive && invocation.generatedRootLease && invocation.vmAdapter

/-- The root of a location. -/
def Invocation.rootOf (invocation : Invocation) (location : DartAbiLocation) (isResult : Bool) :
    Option GeneratedRootAccess :=
  if invocation.rooted then
    invocation.generatedRootAccesses.find? fun access =>
      access.location == location && access.isResult == isResult
  else none

/-- `VmAdapterGeneratedRootGet`. -/
def generatedRootGet (invocation : Invocation) (state : InvocationState) (index : Nat) :
    Option (BitVec 64) :=
  if invocation.rootStatus = .ok then state.roots[index]? else none

/-- `VmAdapterGeneratedRootSet`, when it returns OK. -/
def generatedRootSet (invocation : Invocation) (state : InvocationState) (index : Nat)
    (value : BitVec 64) : Option InvocationState :=
  if invocation.rootStatus = .ok ∧ index < state.roots.length then
    some { state with roots := state.roots.set index value }
  else none

/-- The address of a slot of the entry stack, which is relative to the Dart stack register. -/
def entryStackAddress (invocation : Invocation) (context : DartPlantArm64Context) (offset : Int) :
    Option Address :=
  match invocation.callLayout with
  | none => none
  | some layout =>
    if 31 ≤ layout.dartSpRegister ∨ offset < 0 then none
    else
      let base := context.x layout.dartSpRegister
      if base = 0 then none else some (base + BitVec.ofInt 64 offset)

/-- The last part of `ReadVerifiedLocation`: the place itself. -/
def readPlace (invocation : Invocation) (state : InvocationState) :
    DartAbiLocation → Option (BitVec 64)
  | .gpRegister index => if validRegister index then some (state.context.x index) else none
  | .fpuRegister index => if index < 32 then some (lowWord (state.context.v index)) else none
  | .entryStack offset =>
    (entryStackAddress invocation state.context offset).map (word state.memory)
  | .unknown => none

/-- `ReadVerifiedLocation`. -/
def readVerifiedLocation (invocation : Invocation) (state : InvocationState)
    (location : DartAbiLocation) (isResult : Bool) : Option (BitVec 64) :=
  if invocation.hasContext = false then none
  else match invocation.rootOf location isResult with
    | some access => generatedRootGet invocation state access.rootIndex
    | none => readPlace invocation state location

/-- The first part of `WriteVerifiedLocation`: the place itself. -/
def writePlace (invocation : Invocation) (state : InvocationState) (value : BitVec 64) :
    DartAbiLocation → Option InvocationState
  | .gpRegister index =>
    if validRegister index then some { state with context := state.context.setX index value }
    else none
  | .fpuRegister index =>
    if index < 32 then some { state with context := state.context.setV index value } else none
  | .entryStack offset =>
    (entryStackAddress invocation state.context offset).map fun address =>
      { state with memory := setWord state.memory address value }
  | .unknown => none

/-- `WriteVerifiedLocation`: whether it succeeded, and the state it left.  A vector register has no
root. -/
def writeVerifiedLocation (invocation : Invocation) (state : InvocationState)
    (location : DartAbiLocation) (value : BitVec 64) (isResult : Bool) : Bool × InvocationState :=
  if invocation.hasContext = false then (false, state)
  else match writePlace invocation state value location with
    | none => (false, state)
    | some written =>
      match location with
      | .fpuRegister _ => (true, written)
      | _ =>
        match invocation.rootOf location isResult with
        | none => (true, written)
        | some access =>
          match generatedRootSet invocation written access.rootIndex value with
          | none => (false, written)
          | some rooted => (true, rooted)

/-- What a write to a verified location may come to: nothing, the place alone, or the place and its
root.  It fails half-way when the root cannot be set. -/
theorem writeVerifiedLocation_cases (invocation : Invocation) (state : InvocationState)
    (location : DartAbiLocation) (value : BitVec 64) (isResult : Bool) :
    writeVerifiedLocation invocation state location value isResult = (false, state) ∨
      ∃ written, writePlace invocation state value location = some written ∧
        (writeVerifiedLocation invocation state location value isResult = (true, written) ∧
            (location.rootable = false ∨ invocation.rootOf location isResult = none) ∨
          ∃ access, invocation.rootOf location isResult = some access ∧
            (generatedRootSet invocation written access.rootIndex value = none ∧
                writeVerifiedLocation invocation state location value isResult = (false, written) ∨
              ∃ rooted, generatedRootSet invocation written access.rootIndex value = some rooted ∧
                writeVerifiedLocation invocation state location value isResult =
                  (true, rooted))) := by
  unfold writeVerifiedLocation
  split
  · exact Or.inl rfl
  cases hplace : writePlace invocation state value location with
  | none => exact Or.inl rfl
  | some written =>
    refine Or.inr ⟨written, rfl, ?_⟩
    cases location with
    | unknown => cases hplace
    | fpuRegister index => exact Or.inl ⟨rfl, Or.inl rfl⟩
    | gpRegister | entryStack =>
      dsimp only
      cases hroot : invocation.rootOf _ isResult with
      | none => exact Or.inl ⟨rfl, Or.inr rfl⟩
      | some access =>
        refine Or.inr ⟨access, rfl, ?_⟩
        dsimp only
        cases hset : generatedRootSet invocation written access.rootIndex value with
        | none => exact Or.inl ⟨rfl, rfl⟩
        | some rooted => exact Or.inr ⟨rooted, rfl, rfl⟩

theorem Invocation.rootOf_some {invocation : Invocation} {location : DartAbiLocation}
    {isResult : Bool} {access : GeneratedRootAccess}
    (h : invocation.rootOf location isResult = some access) :
    invocation.rooted = true ∧ access ∈ invocation.generatedRootAccesses ∧
      access.location = location ∧ access.isResult = isResult := by
  unfold Invocation.rootOf at h
  split at h
  next hrooted =>
    have hfound := List.find?_some h
    simp only [Bool.and_eq_true, beq_iff_eq] at hfound
    exact ⟨hrooted, List.mem_of_find?_eq_some h, hfound⟩
  · cases h

theorem generatedRootSet_some {invocation : Invocation} {state rooted : InvocationState}
    {index : Nat} {value : BitVec 64}
    (h : generatedRootSet invocation state index value = some rooted) :
    invocation.rootStatus = .ok ∧ index < state.roots.length ∧
      rooted = { state with roots := state.roots.set index value } := by
  unfold generatedRootSet at h
  split at h
  next hset => exact ⟨hset.1, hset.2, (Option.some.inj h).symm⟩
  · cases h

end DartPlant
