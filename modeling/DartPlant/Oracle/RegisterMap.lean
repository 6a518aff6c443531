import DartPlant.Abi.ArgumentPlaces
import DartPlant.Lib.FallibleLoop
import DartPlant.Lib.KeyedTable

/-! # The register map of the compiler oracle

The sidecar builder holds what it sees in machine code against the representations that the oracle
reports.  For that it works out the argument registers of a function once more, with counters and
limits of its own; the runtime computes them in its call layout.
-/

namespace DartPlant
open KeyedTable FallibleLoop List

/-! ## The evidence -/

/-- A member of a function of the oracle's JSON, `null` where the function has none.  A list comes
with its strings where it holds nothing else, a float with the integer that it equals, if any. -/
inductive OracleValue where
  | null
  | bool (value : Bool)
  | int (value : Int)
  | float (whole : Option Int)
  | text (value : String)
  | list (texts : Option (List String))
  | object
  deriving DecidableEq, Repr

/-- `isinstance(value, int)`, with its value: the two truth values are integers too. -/
def OracleValue.asInt : OracleValue → Option Int
  | .int value => some value
  | .bool value => some (if value then 1 else 0)
  | _ => none

/-- `value == number`. -/
def OracleValue.equals (value : OracleValue) (number : Int) : Bool :=
  match value with
  | .float whole => whole == some number
  | value => value.asInt == some number

/-- `isinstance(value, bool)`, with its value. -/
def OracleValue.asBool : OracleValue → Option Bool
  | .bool value => some value
  | _ => none

/-- A function of the oracle.  Its implicit-parameter count is zero where it has none. -/
structure OracleFunction where
  libraryUri : OracleValue
  className : OracleValue
  functionName : OracleValue
  parameters : OracleValue
  result : OracleValue
  fixedParameterCount : OracleValue
  maxParametersInRegisters : OracleValue
  mustUseStackCallingConvention : OracleValue
  hasOptionalParameters : OracleValue
  hasOverridesWithLessDirectParameters : OracleValue
  implicitParameterCount : OracleValue
  deriving DecidableEq, Repr

/-- The oracle's JSON, with the objects of its functions array, if it has one. -/
structure OracleDocument where
  format : OracleValue
  source : OracleValue
  functions : Option (List OracleFunction)
  deriving DecidableEq, Repr

/-- `AbiEvidence`, as far as the oracle gives it. -/
structure AbiEvidence where
  parameters : List String
  result : String
  maxParametersInRegisters : Int
  mustUseStackCallingConvention : Bool
  hasOptionalParameters : Bool
  hasOverridesWithLessDirectParameters : Bool
  implicitParameterCount : Int
  deriving DecidableEq, Repr

/-- What an oracle is refused for. -/
inductive AbiOracleError where
  | unsupportedFormat
  | noFunctions
  | candidates (libraryUri className functionName : String) (count : Nat)
  | parameterList
  | unsupportedParameter (parameters : List String)
  | unsupportedResult (result : OracleValue)
  | fixedParameterCount
  | maxParametersInRegisters
  | flags
  | implicitParameterCount
  | forcedStack
  deriving DecidableEq, Repr

def allowedParameters : List String := ["tagged", "unboxed-int64", "unboxed-double"]

def allowedResults : List String := allowedParameters ++ ["pair-of-tagged"]

/-- The one function that has this name. -/
def matchingFunction (document : OracleDocument) (libraryUri className functionName : String) :
    Except AbiOracleError OracleFunction :=
  if document.format.equals 1 = false ∨ document.source ≠ .text "vm.unboxing-info.metadata" then
    .error .unsupportedFormat
  else match document.functions with
    | none => .error .noFunctions
    | some functions =>
      let expectedClass := if className = "Global" then "" else className
      let found := functions.filter fun function =>
        function.libraryUri = .text libraryUri && function.className = .text expectedClass &&
          function.functionName = .text functionName
      match found with
      | [function] => .ok function
      | found => .error (.candidates libraryUri className functionName found.length)

/-- The strings of a parameter list, all of them representations of parameters. -/
def parameterNames (function : OracleFunction) : Except AbiOracleError (List String) :=
  match function.parameters with
  | .list (some parameters) =>
    if parameters.all (· ∈ allowedParameters) then .ok parameters
    else .error (.unsupportedParameter parameters)
  | _ => .error .parameterList

/-- The representation of a result. -/
def resultName (function : OracleFunction) : Except AbiOracleError String :=
  match function.result with
  | .text result =>
    if result ∈ allowedResults then .ok result else .error (.unsupportedResult function.result)
  | _ => .error (.unsupportedResult function.result)

/-- A count from zero to a limit. -/
def countUpTo (value : OracleValue) (limit : Nat) (error : AbiOracleError) :
    Except AbiOracleError Int :=
  match value.asInt with
  | some count => if count < 0 ∨ (limit : Int) < count then .error error else .ok count
  | none => .error error

/-- The three flags of the calling convention. -/
def conventionFlags (function : OracleFunction) : Except AbiOracleError (Bool × Bool × Bool) :=
  match function.mustUseStackCallingConvention, function.hasOptionalParameters,
      function.hasOverridesWithLessDirectParameters with
  | .bool mustUseStack, .bool hasOptional, .bool hasOverrides =>
    .ok (mustUseStack, hasOptional, hasOverrides)
  | _, _, _ => .error .flags

/-- A check that raises an error. -/
def raiseIf (condition : Prop) [Decidable condition] (error : AbiOracleError) :
    Except AbiOracleError Unit :=
  if condition then .error error else .ok ()

/-- `_load_abi_oracle`, from where the JSON has been read. -/
def loadAbiOracle (document : OracleDocument) (libraryUri className functionName : String) :
    Except AbiOracleError AbiEvidence := do
  let function ← matchingFunction document libraryUri className functionName
  let parameters ← parameterNames function
  let result ← resultName function
  raiseIf (function.fixedParameterCount.equals parameters.length = false) .fixedParameterCount
  let limit ← countUpTo function.maxParametersInRegisters parameters.length
    .maxParametersInRegisters
  let (mustUseStack, hasOptional, hasOverrides) ← conventionFlags function
  let implicit ← countUpTo function.implicitParameterCount parameters.length
    .implicitParameterCount
  raiseIf (mustUseStack = true ∧ limit ≠ 0) .forcedStack
  return ⟨parameters, result, limit, mustUseStack, hasOptional, hasOverrides, implicit⟩

/-! ## The map -/

/-- The two register files. -/
inductive RegisterFile where
  | gp
  | fpu
  deriving DecidableEq, Repr

/-- The place that a call layout gives a register. -/
def RegisterFile.location : RegisterFile → Nat → DartAbiLocation
  | gp => .gpRegister
  | fpu => .fpuRegister

def oracleGpRegisters : List Nat := [1, 2, 3, 5, 6, 7]

def oracleFpuRegisters : List Nat := [0, 1, 2, 3, 4, 5]

/-- The variables of the loop of `_expected_register_representations`. -/
structure RegisterMapState where
  gpIndex : Nat := 0
  fpuIndex : Nat := 0
  expected : List ((RegisterFile × Nat) × String) := []
  deriving DecidableEq, Repr

/-- One turn of the loop. -/
def registerMapStep (limit : Int) (state : RegisterMapState) (index : Nat)
    (representation : String) : RegisterMapState :=
  if limit ≤ index then state
  else if representation = "tagged" ∨ representation = "unboxed-int64" then
    match oracleGpRegisters[state.gpIndex]? with
    | some register =>
      { state with
        expected := assign state.expected (.gp, register) representation
        gpIndex := state.gpIndex + 1 }
    | none => state
  else if representation = "unboxed-double" then
    match oracleFpuRegisters[state.fpuIndex]? with
    | some register =>
      { state with
        expected := assign state.expected (.fpu, register) representation
        fpuIndex := state.fpuIndex + 1 }
    | none => state
  else state

/-- The loop, from an index on. -/
def registerMapFrom (limit : Int) : Nat → RegisterMapState → List String → RegisterMapState
  | _, state, [] => state
  | index, state, representation :: rest =>
    registerMapFrom limit (index + 1) (registerMapStep limit state index representation) rest

/-- `_expected_register_representations`. -/
def expectedRegisterRepresentations (abi : AbiEvidence) : List ((RegisterFile × Nat) × String) :=
  (registerMapFrom abi.maxParametersInRegisters 0 {} abi.parameters).expected

/-! ## The resolution of the evidence -/

/-- `AbiRepresentationName`. -/
def abiRepresentationName : DartAbiRepresentation → String
  | .unknown => "unknown"
  | .tagged => "tagged"
  | .unboxedInt64 => "unboxed-int64"
  | .unboxedDouble => "unboxed-double"
  | .pairOfTagged => "pair-of-tagged"

/-- The representation of this name. -/
def representationNamed (name : String) : DartAbiRepresentation :=
  if name = "tagged" then .tagged
  else if name = "unboxed-int64" then .unboxedInt64
  else if name = "unboxed-double" then .unboxedDouble
  else if name = "pair-of-tagged" then .pairOfTagged
  else .unknown

/-- The resolution that proves what the evidence says. -/
def AbiEvidence.resolution (abi : AbiEvidence) : DartFunctionAbiResolution where
  parameters := abi.parameters.map fun name =>
    { representation := representationNamed name, proof := .proven }
  result := { representation := representationNamed abi.result, proof := .proven }
  hasStackCallingConvention := true
  mustUseStackCallingConvention := abi.mustUseStackCallingConvention
  hasOverridesWithLessDirectParameters := abi.hasOverridesWithLessDirectParameters
  hasOptionalParameterInfo := true
  hasOptionalParameters := abi.hasOptionalParameters
  hasMaxParametersInRegisters := true
  maxParametersInRegisters := abi.maxParametersInRegisters.toNat
  fullyProven := true

/-- What the loader has checked. -/
structure AbiEvidence.Accepted (abi : AbiEvidence) : Prop where
  parameters : ∀ name ∈ abi.parameters, name ∈ allowedParameters
  result : abi.result ∈ allowedResults
  limit : 0 ≤ abi.maxParametersInRegisters ∧
    abi.maxParametersInRegisters ≤ abi.parameters.length
  stack : abi.mustUseStackCallingConvention = true → abi.maxParametersInRegisters = 0

theorem countUpTo_ok {value : OracleValue} {limit : Nat} {error : AbiOracleError} {count : Int}
    (h : countUpTo value limit error = .ok count) : 0 ≤ count ∧ count ≤ limit := by
  unfold countUpTo at h
  split at h
  next =>
    split at h
    · cases h
    next hrange =>
      obtain rfl := Except.ok.inj h
      omega
  next => cases h

theorem loadAbiOracle_accepted {document : OracleDocument}
    {libraryUri className functionName : String} {abi : AbiEvidence}
    (h : loadAbiOracle document libraryUri className functionName = .ok abi) : abi.Accepted := by
  unfold loadAbiOracle at h
  obtain ⟨function, -, h⟩ := of_bind_ok h
  obtain ⟨parameters, hparameters, h⟩ := of_bind_ok h
  obtain ⟨result, hresult, h⟩ := of_bind_ok h
  obtain ⟨⟨⟩, -, h⟩ := of_bind_ok h
  obtain ⟨limit, hlimit, h⟩ := of_bind_ok h
  obtain ⟨⟨mustUseStack, hasOptional, hasOverrides⟩, -, h⟩ := of_bind_ok h
  obtain ⟨implicit, -, h⟩ := of_bind_ok h
  obtain ⟨⟨⟩, hforced, h⟩ := of_bind_ok h
  obtain rfl := Except.ok.inj h
  refine ⟨?_, ?_, countUpTo_ok hlimit, ?_⟩
  · unfold parameterNames at hparameters
    split at hparameters
    · split at hparameters
      next hall =>
        obtain rfl := Except.ok.inj hparameters
        intro name hname
        exact of_decide_eq_true (all_eq_true.mp hall name hname)
      next => cases hparameters
    · cases hparameters
  · unfold resultName at hresult
    split at hresult
    · split at hresult
      next hmem =>
        obtain rfl := Except.ok.inj hresult
        exact hmem
      next => cases hresult
    · cases hresult
  · intro hstack
    unfold raiseIf at hforced
    split at hforced
    · cases hforced
    next hfree => exact not_not.mp fun hne => hfree ⟨hstack, hne⟩

theorem representationNamed_name {name : String} (h : name ∈ allowedParameters) :
    abiRepresentationName (representationNamed name) = name ∧
      isSupportedParameterRepresentation (representationNamed name) = true := by
  have hcases : name = "tagged" ∨ name = "unboxed-int64" ∨ name = "unboxed-double" := by
    simpa [allowedParameters] using h
  obtain rfl | rfl | rfl := hcases
  · exact ⟨rfl, rfl⟩
  · exact ⟨rfl, rfl⟩
  · exact ⟨rfl, rfl⟩

theorem representationNamed_result {name : String} (h : name ∈ allowedResults) :
    isSupportedResultRepresentation (representationNamed name) = true := by
  obtain hparameter | hpair := mem_append.mp h
  · unfold isSupportedResultRepresentation
    rw [(representationNamed_name hparameter).2, Bool.true_or]
  · obtain rfl := mem_singleton.mp hpair
    rfl

/-- The runtime lays every accepted evidence out. -/
theorem AbiEvidence.Accepted.layout_ok {abi : AbiEvidence} (h : abi.Accepted) {closureCall : Bool}
    (hcall : abi.hasOptionalParameters = true → closureCall = true) :
    (computeDartCallLayout abi.resolution arm64AotCallingConventionProfile closureCall).1 = .ok := by
  have hsupported : ∀ representation : DartAbiRepresentation,
      isSupportedResultRepresentation representation = true → representation ≠ .unknown := by
    rintro representation hresult rfl
    cases hresult
  have hproven (representation : DartAbiRepresentation) (hknown : representation ≠ .unknown) :
      DartAbiResolvedSlot.isProven { representation := representation, proof := .proven } = true := by
    simpa [DartAbiResolvedSlot.isProven] using hknown
  have hresult := representationNamed_result h.result
  refine (computeDartCallLayout_ok_iff (by decide)).mpr
    ⟨rfl, hproven _ (hsupported _ hresult), ?_, rfl, rfl, rfl, hcall, hresult, ?_⟩
  · intro slot hslot
    obtain ⟨name, hname, rfl⟩ := mem_map.mp hslot
    have hparameter := (representationNamed_name (h.parameters name hname)).2
    refine hproven _ (hsupported _ ?_)
    unfold isSupportedResultRepresentation
    rw [hparameter, Bool.true_or]
  · intro slot hslot
    obtain ⟨name, hname, rfl⟩ := mem_map.mp hslot
    exact (representationNamed_name (h.parameters name hname)).2

/-! ## One turn of the loop -/

/-- The registers that have entries are those that the two counters have gone past. -/
def RegisterMapState.Fresh (state : RegisterMapState) : Prop :=
  ∀ entry ∈ state.expected,
    (entry.1.1 = .gp → entry.1.2 ∉ oracleGpRegisters.drop state.gpIndex) ∧
      (entry.1.1 = .fpu → entry.1.2 ∉ oracleFpuRegisters.drop state.fpuIndex)

theorem RegisterFile.location_injective {file file' : RegisterFile} {register register' : Nat}
    (h : file.location register = file'.location register') :
    file = file' ∧ register = register' := by
  cases file <;> cases file' <;> cases h <;> exact ⟨rfl, rfl⟩

/-- What one turn does: the register that is left for the parameter, if any, gets its entry, and the
registers of the later parameters stay the same. -/
structure Turn (limit : Int) (index : Nat) (name : String) (state after : RegisterMapState) :
    Prop where
  fresh : after.Fresh
  entries : ∀ entry, entry ∈ after.expected ↔ entry ∈ state.expected ∨
    entry.2 = name ∧ registerFor (limit - index).toNat (oracleGpRegisters.drop state.gpIndex)
      (oracleFpuRegisters.drop state.fpuIndex) [representationNamed name] 0 =
        some (entry.1.1.location entry.1.2)
  later : ∀ rest other, registerFor (limit - index).toNat (oracleGpRegisters.drop state.gpIndex)
      (oracleFpuRegisters.drop state.fpuIndex) (representationNamed name :: rest) (other + 1) =
    registerFor (limit - (index + 1 : Nat)).toNat (oracleGpRegisters.drop after.gpIndex)
      (oracleFpuRegisters.drop after.fpuIndex) rest other

section Turns
variable {limit : Int} {index : Nat} {name : String} {state : RegisterMapState}

/-- No parameter beyond the limit, and none that finds its registers gone, has an entry. -/
theorem Turn.idle (hfresh : state.Fresh)
    (hnone : registerFor (limit - index).toNat (oracleGpRegisters.drop state.gpIndex)
      (oracleFpuRegisters.drop state.fpuIndex) [representationNamed name] 0 = none)
    (hlater : ∀ rest other, registerFor (limit - index).toNat
        (oracleGpRegisters.drop state.gpIndex) (oracleFpuRegisters.drop state.fpuIndex)
        (representationNamed name :: rest) (other + 1) =
      registerFor (limit - (index + 1 : Nat)).toNat (oracleGpRegisters.drop state.gpIndex)
        (oracleFpuRegisters.drop state.fpuIndex) rest other) :
    Turn limit index name state state := by
  refine ⟨hfresh, fun entry => ?_, hlater⟩
  rw [hnone]
  exact ⟨Or.inl, fun h => h.resolve_right fun hentry => Option.some_ne_none _ hentry.2.symm⟩

theorem not_mem_drop_succ {registers : List Nat} (hdistinct : registers.Nodup) {place register : Nat}
    (h : registers[place]? = some register) : register ∉ registers.drop (place + 1) := by
  obtain ⟨hplace, rfl⟩ := List.getElem?_eq_some_iff.mp h
  have hdrop : (registers.drop place).Nodup := List.Pairwise.drop hdistinct
  rw [drop_eq_getElem_cons hplace, nodup_cons] at hdrop
  exact hdrop.1

theorem mem_drop_of_getElem? {registers : List Nat} {place register : Nat}
    (h : registers[place]? = some register) : register ∈ registers.drop place := by
  obtain ⟨hplace, rfl⟩ := List.getElem?_eq_some_iff.mp h
  rw [drop_eq_getElem_cons hplace]
  exact mem_cons_self

/-- A parameter that finds a register gets an entry of its own. -/
theorem Turn.taken {file : RegisterFile} {register : Nat} {after : RegisterMapState}
    (hafter : after.Fresh) (hnew : ∀ entry ∈ state.expected, entry.1 ≠ (file, register))
    (hexpected : after.expected = assign state.expected (file, register) name)
    (hregister : registerFor (limit - index).toNat (oracleGpRegisters.drop state.gpIndex)
      (oracleFpuRegisters.drop state.fpuIndex) [representationNamed name] 0 =
        some (file.location register))
    (hlater : ∀ rest other, registerFor (limit - index).toNat
        (oracleGpRegisters.drop state.gpIndex) (oracleFpuRegisters.drop state.fpuIndex)
        (representationNamed name :: rest) (other + 1) =
      registerFor (limit - (index + 1 : Nat)).toNat (oracleGpRegisters.drop after.gpIndex)
        (oracleFpuRegisters.drop after.fpuIndex) rest other) :
    Turn limit index name state after := by
  refine ⟨hafter, fun entry => ?_, hlater⟩
  rw [hexpected, hregister, mem_assign]
  constructor
  · rintro (rfl | ⟨hold, -⟩)
    · exact Or.inr ⟨rfl, rfl⟩
    · exact Or.inl hold
  · rintro (hold | ⟨hname, hlocation⟩)
    · exact Or.inr ⟨hold, hnew entry hold⟩
    · obtain ⟨hfile, hnumber⟩ := RegisterFile.location_injective (Option.some.inj hlocation)
      exact Or.inl (Prod.ext (Prod.ext hfile.symm hnumber.symm) hname)

/-- A sequence that is used loses its first register. -/
theorem getElem?_drop_succ (registers : List Nat) (place count : Nat) :
    (registers.drop (place + 1))[count]? = (registers.drop place)[count + 1]? := by
  rw [List.getElem?_drop, List.getElem?_drop, Nat.add_assoc, Nat.add_comm 1]

/-- A sequence that has ended goes on being empty. -/
theorem getElem?_drop_ended {registers : List Nat} {place : Nat} (h : registers[place]? = none)
    (count : Nat) : (registers.drop place)[count]? = (registers.drop place)[count + 1]? := by
  have hended := List.getElem?_eq_none_iff.mp h
  rw [drop_eq_nil_of_le hended]
  rfl

theorem registerMapStep_turn (hfresh : state.Fresh) (hname : name ∈ allowedParameters) :
    Turn limit index name state (registerMapStep limit state index name) := by
  by_cases hlimit : limit ≤ index
  · have hzero : (limit - index).toNat = 0 := by omega
    have hzero' : (limit - (index + 1 : Nat)).toNat = 0 := by omega
    rw [registerMapStep, if_pos hlimit]
    refine Turn.idle hfresh ?_ fun rest other => ?_
    · rw [hzero, registerFor_zero]
    · rw [hzero, hzero', registerFor_zero, registerFor_zero]
  have hleft : (limit - index).toNat = (limit - (index + 1 : Nat)).toNat + 1 := by omega
  have hcases : (name = "tagged" ∨ name = "unboxed-int64") ∨ name = "unboxed-double" := by
    have h : name = "tagged" ∨ name = "unboxed-int64" ∨ name = "unboxed-double" := by
      simpa [allowedParameters] using hname
    exact or_assoc.mpr h
  rw [registerMapStep, if_neg hlimit]
  obtain hgp | rfl := hcases
  · have huses : (representationNamed name).usesGp = true := by
      obtain rfl | rfl := hgp <;> rfl
    have hother : (representationNamed name).usesFpu = false := by
      obtain rfl | rfl := hgp <;> rfl
    have hhead : registerFor (limit - index).toNat (oracleGpRegisters.drop state.gpIndex)
        (oracleFpuRegisters.drop state.fpuIndex) [representationNamed name] 0 =
          oracleGpRegisters[state.gpIndex]?.map .gpRegister := by
      rw [hleft, registerFor, if_pos (Nat.succ_pos _)]
      simp [huses]
    rw [if_pos hgp]
    cases hregister : oracleGpRegisters[state.gpIndex]? with
    | none =>
      refine Turn.idle hfresh (by rw [hhead, hregister]; rfl) fun rest other => ?_
      rw [hleft]
      exact registerFor_succ (by rw [huses]; exact getElem?_drop_ended hregister)
        (by rw [hother]; exact fun _ => rfl)
    | some register =>
      refine @Turn.taken limit index name state .gp register _ ?_ ?_ rfl
        (by rw [hhead, hregister]; rfl) fun rest other => ?_
      · intro entry hentry
        obtain rfl | ⟨hold, -⟩ := mem_assign.mp hentry
        · refine ⟨fun _ => not_mem_drop_succ (by decide) hregister, fun hfile => ?_⟩
          cases hfile
        · refine ⟨fun hfile hmem => (hfresh entry hold).1 hfile ?_, (hfresh entry hold).2⟩
          exact drop_subset_drop_left _ (Nat.le_succ _) hmem
      · rintro ⟨key, representation⟩ hold hkey
        obtain rfl : key = (.gp, register) := hkey
        exact (hfresh _ hold).1 rfl (mem_drop_of_getElem? hregister)
      · rw [hleft]
        exact registerFor_succ (by rw [huses]; exact getElem?_drop_succ _ _)
          (by rw [hother]; exact fun _ => rfl)
  · have hhead : registerFor (limit - index).toNat (oracleGpRegisters.drop state.gpIndex)
        (oracleFpuRegisters.drop state.fpuIndex) [representationNamed "unboxed-double"] 0 =
          oracleFpuRegisters[state.fpuIndex]?.map .fpuRegister := by
      rw [hleft, registerFor, if_pos (Nat.succ_pos _)]
      simp [representationNamed, DartAbiRepresentation.usesGp, DartAbiRepresentation.usesFpu]
    rw [if_neg (by decide), if_pos rfl]
    cases hregister : oracleFpuRegisters[state.fpuIndex]? with
    | none =>
      refine Turn.idle hfresh (by rw [hhead, hregister]; rfl) fun rest other => ?_
      rw [hleft]
      exact registerFor_succ (fun _ => rfl) (getElem?_drop_ended hregister)
    | some register =>
      refine @Turn.taken limit index _ state .fpu register _ ?_ ?_ rfl
        (by rw [hhead, hregister]; rfl) fun rest other => ?_
      · intro entry hentry
        obtain rfl | ⟨hold, -⟩ := mem_assign.mp hentry
        · refine ⟨fun hfile => ?_, fun _ => not_mem_drop_succ (by decide) hregister⟩
          cases hfile
        · refine ⟨(hfresh entry hold).1, fun hfile hmem => (hfresh entry hold).2 hfile ?_⟩
          exact drop_subset_drop_left _ (Nat.le_succ _) hmem
      · rintro ⟨key, representation⟩ hold hkey
        obtain rfl : key = (.fpu, register) := hkey
        exact (hfresh _ hold).2 rfl (mem_drop_of_getElem? hregister)
      · rw [hleft]
        exact registerFor_succ (fun _ => rfl) (getElem?_drop_succ _ _)

/-- The loop gives an entry to every parameter that finds a register. -/
theorem mem_registerMapFrom {names : List String} (hnames : ∀ name ∈ names, name ∈ allowedParameters)
    (hfresh : state.Fresh) {entry : (RegisterFile × Nat) × String} :
    entry ∈ (registerMapFrom limit index state names).expected ↔ entry ∈ state.expected ∨
      ∃ other, names[other]? = some entry.2 ∧ registerFor (limit - index).toNat
        (oracleGpRegisters.drop state.gpIndex) (oracleFpuRegisters.drop state.fpuIndex)
        (names.map representationNamed) other = some (entry.1.1.location entry.1.2) := by
  induction names generalizing index state with
  | nil =>
    refine ⟨Or.inl, fun h => h.resolve_right ?_⟩
    rintro ⟨other, hother, -⟩
    cases hother
  | cons name rest ih =>
    have hturn := @registerMapStep_turn limit index name state hfresh
      (hnames name mem_cons_self)
    rw [registerMapFrom, ih (fun other hother => hnames other (mem_cons_of_mem _ hother))
      hturn.fresh, hturn.entries, or_assoc, map_cons]
    have hhead (limit : Nat) (gp fpu : List Nat) (representation : DartAbiRepresentation)
        (rest : List DartAbiRepresentation) : registerFor limit gp fpu (representation :: rest) 0 =
          registerFor limit gp fpu [representation] 0 := rfl
    refine or_congr_right ⟨?_, ?_⟩
    · rintro (⟨hname, hregister⟩ | ⟨other, hname, hregister⟩)
      · exact ⟨0, congrArg some hname.symm, by rw [hhead, hregister]⟩
      · exact ⟨other + 1, hname, by rw [hturn.later, hregister]⟩
    · rintro ⟨other, hname, hregister⟩
      cases other with
      | zero =>
        rw [hhead] at hregister
        exact Or.inl ⟨(Option.some.inj hname).symm, hregister⟩
      | succ other =>
        rw [hturn.later] at hregister
        exact Or.inr ⟨other, hname, hregister⟩

theorem registerMapStep_keyed {name : String} (h : Keyed state.expected) :
    Keyed (registerMapStep limit state index name).expected := by
  unfold registerMapStep
  split
  · exact h
  split
  · split
    · exact h.assign
    · exact h
  split
  · split
    · exact h.assign
    · exact h
  · exact h

theorem registerMapFrom_keyed {names : List String} (h : Keyed state.expected) :
    Keyed (registerMapFrom limit index state names).expected := by
  induction names generalizing index state with
  | nil => exact h
  | cons name rest ih => exact ih (registerMapStep_keyed h)

end Turns

/-! ## The two maps -/

/-- A parameter that is in a register was given it. -/
theorem registerFor_of_argumentPlace {profile : DartCallingConventionProfile} {limit : Nat}
    {parameters : List DartAbiRepresentation} {index : Nat} {file : RegisterFile} {register : Nat}
    (h : argumentPlace profile limit parameters index = file.location register) :
    registerFor limit profile.gpArgumentRegisters profile.fpuArgumentRegisters parameters index =
      some (file.location register) := by
  unfold argumentPlace at h
  cases hregister : registerFor limit profile.gpArgumentRegisters profile.fpuArgumentRegisters
      parameters index with
  | none =>
    rw [hregister, Option.getD_none] at h
    cases file <;> cases h
  | some location =>
    rw [hregister, Option.getD_some] at h
    rw [h]

/-- The map has one entry for each parameter that is in a register, and no other. -/
structure RegisterMapMatches (expected : List ((RegisterFile × Nat) × String))
    (layout : DartCallLayout) : Prop where
  keyed : Keyed expected
  entries : ∀ file register name, ((file, register), name) ∈ expected ↔
    ∃ (index : Nat) (representation : DartAbiRepresentation), layout.parameters[index]? =
        some (DartParameterLayout.mk representation [file.location register]) ∧
      abiRepresentationName representation = name
  apart : ∀ index other (file : RegisterFile) register,
    LocatedAt layout index (file.location register) →
    LocatedAt layout other (file.location register) → index = other

/-- The oracle's map and the runtime's layout agree on every evidence that is accepted. -/
theorem register_map_matches {document : OracleDocument}
    {libraryUri className functionName : String} {abi : AbiEvidence} {closureCall : Bool}
    (hload : loadAbiOracle document libraryUri className functionName = .ok abi)
    (hcall : abi.hasOptionalParameters = true → closureCall = true) :
    (computeDartCallLayout abi.resolution arm64AotCallingConventionProfile closureCall).1 = .ok ∧
      RegisterMapMatches (expectedRegisterRepresentations abi)
        (computeDartCallLayout abi.resolution arm64AotCallingConventionProfile closureCall).2 := by
  have haccepted := loadAbiOracle_accepted hload
  have hok := haccepted.layout_ok hcall
  have hplaces := arm64_places hok
  refine ⟨hok, registerMapFrom_keyed nodup_nil, ?_, ?_⟩
  · intro file register name
    have hlimit : (abi.maxParametersInRegisters - (0 : Nat)).toNat = registerLimit abi.resolution := by
      unfold registerLimit AbiEvidence.resolution
      dsimp only
      split
      next hstack =>
        rw [haccepted.stack hstack]
        rfl
      next => rw [Nat.cast_zero, Int.sub_zero]
    have hmap : abi.resolution.parameters.map DartAbiResolvedSlot.representation =
        abi.parameters.map representationNamed := by
      rw [AbiEvidence.resolution, map_map]
      rfl
    unfold expectedRegisterRepresentations
    rw [mem_registerMapFrom haccepted.parameters (fun _ hentry => absurd hentry not_mem_nil),
      hlimit,
      computeDartCallLayout_eq_layoutOf hok, hmap]
    constructor
    · rintro (hnone | ⟨index, hname, hregister⟩)
      · cases hnone
      · refine ⟨index, representationNamed name, ?_, ?_⟩
        · rw [layoutOf_getElem?, List.getElem?_map, hname, argumentPlace_register hregister]
          rfl
        · exact (representationNamed_name
            (haccepted.parameters name (mem_of_getElem? hname))).1
    · rintro ⟨index, representation, hparameter, hname⟩
      rw [layoutOf_getElem?, List.getElem?_map, Option.map_map] at hparameter
      obtain ⟨name', hname', hlayout⟩ := Option.map_eq_some_iff.mp hparameter
      obtain ⟨rfl, hplace⟩ := DartParameterLayout.mk.inj hlayout
      have hallowed := haccepted.parameters name' (mem_of_getElem? hname')
      obtain rfl : name' = name := (representationNamed_name hallowed).1.symm.trans hname
      exact Or.inr ⟨index, hname', registerFor_of_argumentPlace (List.cons.inj hplace).1⟩
  · intro index other file register
    exact hplaces.distinct index other _

/-- The oracle of a function with a double and an integer parameter, only the first in a register. -/
def addOracle : OracleDocument where
  format := .int 1
  source := .text "vm.unboxing-info.metadata"
  functions := some [{
    libraryUri := .text "package:app/main.dart"
    className := .text ""
    functionName := .text "add"
    parameters := .list (some ["unboxed-double", "unboxed-int64"])
    result := .text "tagged"
    fixedParameterCount := .int 2
    maxParametersInRegisters := .int 1
    mustUseStackCallingConvention := .bool false
    hasOptionalParameters := .bool false
    hasOverridesWithLessDirectParameters := .bool false
    implicitParameterCount := .int 0 }]

def addEvidence : AbiEvidence :=
  ⟨["unboxed-double", "unboxed-int64"], "tagged", 1, false, false, false, 0⟩

theorem register_map_matches_add :
    (computeDartCallLayout addEvidence.resolution arm64AotCallingConventionProfile false).1 = .ok ∧
      RegisterMapMatches (expectedRegisterRepresentations addEvidence)
        (computeDartCallLayout addEvidence.resolution arm64AotCallingConventionProfile false).2 :=
  @register_map_matches addOracle "package:app/main.dart" "Global" "add" addEvidence false rfl
    (by decide)

end DartPlant
