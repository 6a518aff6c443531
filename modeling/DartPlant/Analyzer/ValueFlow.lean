import DartPlant.Abi.EvidenceSolver
import DartPlant.Analyzer.BlockGraph
import Mathlib.Algebra.Order.BigOperators.Group.Finset
import Mathlib.Data.Fintype.Pi

/-! # The value-flow analysis of an entry

`AnalyzeArm64Entry` follows the values of the argument registers and of the entry stack through the
blocks.  A `State` says for each register and stack slot which entry location its value comes from,
if any, and where the Dart stack pointer and the frame pointer are; states that meet are merged, and
a block is looked at again when the state at its start has changed.

Offsets are `int32_t`s that wrap around.
-/

namespace DartPlant.Analyzer
open Propagation

/-! ## States -/

/-- A `Source`: the entry location that a value comes from, if it is known. -/
abbrev Source := Option DartAbiLocation

def kStackMin : Int := -256
def kStackMax : Int := 768

abbrev kGpCount : Nat := 31
abbrev kFpuCount : Nat := 32
abbrev kStackCount : Nat := 129

structure State where
  gp : Fin kGpCount → Source := fun _ => none
  fpu : Fin kFpuCount → Source := fun _ => none
  stack : Fin kStackCount → Source := fun _ => none
  dartSpKnown : Bool := true
  dartSpToEntry : BitVec 32 := 0
  fpKnown : Bool := false
  fpToEntry : BitVec 32 := 0
  deriving DecidableEq

/-- `StackIndex`. -/
def stackIndex (offset : BitVec 32) : Option (Fin kStackCount) :=
  if offset.toInt < kStackMin ∨ kStackMax < offset.toInt ∨ offset.toInt.tmod 8 ≠ 0 then none
  else
    let index := ((offset.toInt - kStackMin) / 8).toNat
    if h : index < kStackCount then some ⟨index, h⟩ else none

namespace State
variable (state : State)

/-- `ReadSource`. -/
def read (reg : AArch64Reg) : Source :=
  match reg.gpIndex, reg.fpuIndex with
  | some index, _ => state.gp index
  | none, some index => state.fpu index
  | none, none => none

/-- `WriteSource`. -/
def write (reg : AArch64Reg) (source : Source) : State :=
  match reg.gpIndex, reg.fpuIndex with
  | some index, _ => { state with gp := Function.update state.gp index source }
  | none, some index => { state with fpu := Function.update state.fpu index source }
  | none, none => state

/-- `InvalidateRegister`. -/
def invalidate (reg : AArch64Reg) : State := state.write reg none

/-- `ResolveEntryStackOffset`. -/
def entryStackOffset : Operand → Option (BitVec 32)
  | .mem base disp =>
    if base = .x 15 then
      if state.dartSpKnown then some (state.dartSpToEntry + disp) else none
    else if base = .fp then
      if state.fpKnown then some (state.fpToEntry + disp) else none
    else none
  | _ => none

def readSlot (offset : BitVec 32) : Source :=
  match stackIndex offset with
  | some index => state.stack index
  | none => none

def writeSlot (offset : BitVec 32) (source : Source) : State :=
  match stackIndex offset with
  | some index => { state with stack := Function.update state.stack index source }
  | none => state

/-- `ReadMemorySource`. -/
def readMemory (operand : Operand) : Source := (state.entryStackOffset operand).bind state.readSlot

/-- `WriteMemorySource`. -/
def writeMemory (operand : Operand) (source : Source) : State :=
  match state.entryStackOffset operand with
  | some offset => state.writeSlot offset source
  | none => state

/-- `InitializeEntryState`. -/
def entry : State where
  gp := fun index =>
    if (index : Nat) ∈ [1, 2, 3, 5, 6, 7] then some (.gpRegister index) else none
  fpu := fun index => if (index : Nat) < 6 then some (.fpuRegister index) else none
  stack := fun index =>
    if 0 ≤ kStackMin + 8 * (index : Int) then some (.entryStack (kStackMin + 8 * (index : Int)))
    else none

/-- `ApplyCallClobber`. -/
def clobber : State :=
  { state with
    gp := fun index => if (index : Nat) ≤ 17 ∨ (index : Nat) = 30 then none else state.gp index
    fpu := fun index => if (index : Nat) ≤ 7 ∨ 16 ≤ (index : Nat) then none else state.fpu index }

end State

/-- `MergeSource`. -/
def mergeSource (destination incoming : Source) : Source :=
  if destination = incoming then destination else none

/-- `MergeState`: the state after it, and whether it has changed. -/
def mergeState (destination incoming : State) : State × Bool :=
  let merged : State :=
    { destination with
      gp := fun i => mergeSource (destination.gp i) (incoming.gp i)
      fpu := fun i => mergeSource (destination.fpu i) (incoming.fpu i)
      stack := fun i => mergeSource (destination.stack i) (incoming.stack i)
      dartSpKnown :=
        if destination.dartSpKnown ≠ incoming.dartSpKnown ∨ (destination.dartSpKnown = true ∧
            destination.dartSpToEntry ≠ incoming.dartSpToEntry) then false
        else destination.dartSpKnown
      fpKnown :=
        if destination.fpKnown ≠ incoming.fpKnown ∨ (destination.fpKnown = true ∧
            destination.fpToEntry ≠ incoming.fpToEntry) then false
        else destination.fpKnown }
  (merged, destination.gp ≠ merged.gp ∨ destination.fpu ≠ merged.fpu ∨
    destination.stack ≠ merged.stack ∨ destination.dartSpKnown ≠ merged.dartSpKnown ∨
    destination.dartSpToEntry ≠ merged.dartSpToEntry ∨ destination.fpKnown ≠ merged.fpKnown ∨
    destination.fpToEntry ≠ merged.fpToEntry)

/-! ## Observations -/

/-- `DartAbiObservation`. -/
structure AbiObservation where
  location : DartAbiLocation
  representation : DartAbiRepresentation
  source : DartAbiEvidenceSource
  proof : DartAbiProofState
  firstObservationPc : BitVec 64
  observationCount : Nat
  deriving DecidableEq, Repr

def kMaxAbiObservations : Nat := 32

/-- What an `AnalysisResult` says about the values. -/
structure ValueFacts where
  fpuArguments : Fin 6 → DartAbiRepresentation := fun _ => .unknown
  observations : List AbiObservation := []
  stoppedAtControlFlow : Bool := false
  usesArgumentsDescriptor : Bool := false
  deriving DecidableEq

namespace ValueFacts
variable (facts : ValueFacts)

/-- The view of the FPU arguments follows the observation. -/
def noteFpu (location : DartAbiLocation) (representation : DartAbiRepresentation) : ValueFacts :=
  match location with
  | .fpuRegister index =>
    { facts with
      fpuArguments := fun i => if (i : Nat) = index then representation else facts.fpuArguments i }
  | _ => facts

/-- The location is observed once more. -/
def observeAgain (evidence : DartAbiRepresentation) (pc : BitVec 64)
    (observation : AbiObservation) : AbiObservation :=
  let conflicting := observation.representation ≠ evidence
  { observation with
    representation := if conflicting then .unknown else observation.representation
    proof := if conflicting then .conflicting else observation.proof
    firstObservationPc :=
      if observation.firstObservationPc = 0 then pc else observation.firstObservationPc
    observationCount := observation.observationCount + 1 }

/-- `AddObservation`, for a location that is known. -/
def observeAt (location : DartAbiLocation) (evidence : DartAbiRepresentation) (pc : BitVec 64) :
    ValueFacts :=
  match facts.observations.findIdx? (·.location == location) with
  | some index =>
    let observations := facts.observations.modify index (observeAgain evidence pc)
    let again : ValueFacts := { facts with observations := observations }
    again.noteFpu location ((observations[index]?.map AbiObservation.representation).getD .unknown)
  | none =>
    if facts.observations.length < kMaxAbiObservations then
      let first : AbiObservation := ⟨location, evidence, .aotCodeAnalysis, .proven, pc, 1⟩
      let observed : ValueFacts := { facts with observations := facts.observations ++ [first] }
      observed.noteFpu location evidence
    else facts

/-- `AddObservation`. -/
def observe (source : Source) (evidence : DartAbiRepresentation) (pc : BitVec 64) : ValueFacts :=
  match source with
  | none | some .unknown => facts
  | some location => facts.observeAt location evidence pc

/-- A register branch could lead anywhere, so nothing is proven. -/
def withdraw : ValueFacts :=
  { facts with
    observations := facts.observations.map fun observation =>
      { observation with representation := .unknown, proof := .unknown }
    fpuArguments := fun _ => .unknown }

end ValueFacts

/-! ## Instructions -/

def InsnId.isDoubleOperation : InsnId → Bool
  | .fadd | .fsub | .fmul | .fdiv | .fneg | .fabs | .fsqrt | .fcmp => true
  | _ => false

def InsnId.isExplicitIntegerOperation : InsnId → Bool
  | .sdiv | .udiv | .sdivr | .udivr | .smulh | .umulh => true
  | _ => false

/-- A load of a pair and the stores change the state before anything is observed. -/
def accessStack (insn : Insn) (state : State) : State :=
  match insn.id, insn.operands with
  | .ldp, .reg first :: .reg second :: operand :: _ =>
    match state.entryStackOffset operand with
    | some offset =>
      let loaded := state.write first (state.readSlot offset)
      loaded.write second (loaded.readSlot (offset + 8))
    | none => state
  | .stp, .reg first :: .reg second :: operand :: _ =>
    match state.entryStackOffset operand with
    | some offset =>
      let stored := state.writeSlot offset (state.read first)
      stored.writeSlot (offset + 8) (stored.read second)
    | none => state
  | .str, .reg source :: operand :: _ | .stur, .reg source :: operand :: _ =>
    state.writeMemory operand (state.read source)
  | _, _ => state

/-- The register that gets a known value, and where that comes from. -/
def preserved (insn : Insn) (state : State) : Option (AArch64Reg × Source) :=
  match insn.id, insn.operands with
  | .add, .reg destination :: .reg source :: .imm immediate :: _ =>
    if immediate = 0 then some (destination, state.read source) else none
  | .mov, .reg destination :: .reg source :: _ | .orr, .reg destination :: .reg source :: _ =>
    some (destination, if source.isZeroRegister then none else state.read source)
  | .fmov, [.reg destination, .reg source] => some (destination, state.read source)
  | .ldr, .reg destination :: operand :: _ | .ldur, .reg destination :: operand :: _ =>
    match operand with
    | .mem _ _ => some (destination, state.readMemory operand)
    | _ => none
  | _, _ => none

/-- `UpdateDartStackPointer`. -/
def updateDartStackPointer (insn : Insn) (state : State) : State :=
  match insn.operands with
  | .reg (.x 15) :: .reg (.x 15) :: .imm amount :: _ =>
    if state.dartSpKnown = false then state
    else if insn.id = .add then
      { state with dartSpToEntry := state.dartSpToEntry + amount.setWidth 32 }
    else if insn.id = .sub then
      { state with dartSpToEntry := state.dartSpToEntry - amount.setWidth 32 }
    else state
  | _ => state

/-- `UpdateFramePointer`. -/
def updateFramePointer (insn : Insn) (state : State) : State :=
  match insn.operands with
  | .reg .fp :: .reg source :: rest =>
    if (insn.id = .mov ∨ insn.id = .orr) ∧ source = .x 15 ∧ state.dartSpKnown = true then
      { state with fpKnown := true, fpToEntry := state.dartSpToEntry }
    else match rest with
      | .imm amount :: _ =>
        if insn.id = .add ∧ source = .x 15 ∧ state.dartSpKnown = true then
          { state with fpKnown := true, fpToEntry := state.dartSpToEntry + amount.setWidth 32 }
        else state
      | _ => state
  | _ => state

/-- The displacement of the first access that is based on the Dart stack pointer. -/
def dartStackDisp : List Operand → Option (BitVec 32)
  | [] => none
  | .mem base disp :: rest => if base = .x 15 then some disp else dartStackDisp rest
  | _ :: rest => dartStackDisp rest

/-- The last immediate. -/
def lastImmediate (operands : List Operand) : BitVec 64 :=
  operands.foldl (fun last operand => match operand with | .imm value => value | _ => last) 0

/-- `ApplyDartStackWriteback`. -/
def applyDartStackWriteback (insn : Insn) (state : State) : State :=
  if insn.writeback = false ∨ state.dartSpKnown = false then state
  else match dartStackDisp insn.operands with
    | none => state
    | some disp =>
      let delta := if insn.postIndex then (lastImmediate insn.operands).setWidth 32 else disp
      { state with dartSpToEntry := state.dartSpToEntry + delta }

/-- What an instruction reads for its operation is evidence. -/
def observeOperands (insn : Insn) (state : State) (facts : ValueFacts) : ValueFacts :=
  let facts :=
    if insn.id.isDoubleOperation then
      insn.regsRead.foldl (fun facts reg =>
        if reg.fpuIndex.isSome then
          match state.read reg with
          | some (.gpRegister _) => facts
          | source => facts.observe source .unboxedDouble insn.address
        else facts) facts
    else facts
  if insn.id.isExplicitIntegerOperation then
    (insn.operands.drop 1).foldl (fun facts operand =>
      match operand with
      | .reg reg =>
        if reg.gpIndex.isSome then
          facts.observe (state.read reg) .unboxedInt64 insn.address
        else facts
      | _ => facts) facts
  else facts

/-- An access based on x4 reads the arguments descriptor. -/
def noteDescriptor (insn : Insn) (facts : ValueFacts) : ValueFacts :=
  { facts with
    usesArgumentsDescriptor := facts.usesArgumentsDescriptor ||
      insn.operands.any fun operand => match operand with
        | .mem base _ => base == .x 4
        | _ => false }

/-- `ProcessInstruction`. -/
def processInstruction (insn : Insn) (state : State) (facts : ValueFacts) : State × ValueFacts :=
  let kept := preserved insn state
  let accessed := accessStack insn state
  let facts := observeOperands insn accessed (noteDescriptor insn facts)
  let invalidated := insn.regsWrite.foldl State.invalidate accessed
  let written := match kept with
    | some (reg, source) => if reg = .invalid then invalidated else invalidated.write reg source
    | none => invalidated
  let moved := applyDartStackWriteback insn
    (updateFramePointer insn (updateDartStackPointer insn written))
  (if insn.id = .bl ∨ insn.id = .blr then moved.clobber else moved, facts)

/-! ## `AnalyzeArm64Entry` -/

/-- The instructions of a block, one after the other. -/
def processBlock (decoded : Decoded) (block : Nat) (state : State) (facts : ValueFacts) :
    State × ValueFacts :=
  (List.range' (decoded.blockBegin block)
    (decoded.blockEnd block - decoded.blockBegin block)).foldl (fun left index =>
      match decoded.insns[index]? with
      | none => left
      | some insn =>
        let facts := if insn.isTerminator ∧ insn.id ≠ .ret then
          { left.2 with stoppedAtControlFlow := true } else left.2
        processInstruction insn left.1 facts) (state, facts)

def valueFlow (decoded : Decoded) : Propagation.Flow State ValueFacts where
  successors := decoded.successors
  transfer := processBlock decoded
  merge := mergeState

/-- The worklist loop. -/
def analyzeBlocks (decoded : Decoded) (fuel : Nat) : Option (Work State ValueFacts) :=
  (valueFlow decoded).run fuel (Propagation.Flow.begin 0 .entry {})

/-- `AnalyzeArm64Entry`, with the turns it may take. -/
def analyzeArm64Entry (insns : List Insn) (address : BitVec 64) (size fuel : Nat) :
    Option (StructuralFacts × ValueFacts) :=
  if insns = [] then some ({}, {})
  else
    let decoded := decode insns
    let structural := collectStructuralFacts decoded address size
    (analyzeBlocks decoded fuel).map fun final =>
      (structural, if structural.hasUnknownControlFlow then final.collected.withdraw
        else final.collected)

/-! ## The worklist loop ends -/

section Height
variable {n : Nat}

/-- How many values are known. -/
def known (sources : Fin n → Source) : Nat := ∑ i, (sources i).isSome.toNat

/-- Merging loses a known value whenever it changes anything. -/
theorem known_mergeSource (destination incoming : Fin n → Source) :
    known (fun i => mergeSource (destination i) (incoming i)) +
      (decide (destination ≠ fun i => mergeSource (destination i) (incoming i))).toNat ≤
        known destination := by
  have hle : ∀ i, (mergeSource (destination i) (incoming i)).isSome.toNat ≤
      (destination i).isSome.toNat := by
    intro i
    unfold mergeSource
    split
    · exact Nat.le_refl _
    · exact Nat.zero_le _
  by_cases hsame : destination = fun i => mergeSource (destination i) (incoming i)
  · rw [decide_eq_false (not_not.mpr hsame), Bool.toNat_false, ← hsame]
    exact Nat.le_refl _
  · rw [decide_eq_true hsame, Bool.toNat_true]
    obtain ⟨i, hi⟩ := Function.ne_iff.mp hsame
    refine Finset.sum_lt_sum (fun i _ => hle i) ⟨i, Finset.mem_univ i, ?_⟩
    unfold mergeSource at hi ⊢
    by_cases heq : destination i = incoming i
    · rw [if_pos heq] at hi
      exact absurd rfl hi
    · rw [if_neg heq] at hi ⊢
      rw [Option.isSome_iff_ne_none.mpr hi]
      exact Nat.zero_lt_one

theorem known_le (sources : Fin n → Source) : known sources ≤ n := by
  have hle : known sources ≤ ∑ _i : Fin n, 1 :=
    Finset.sum_le_sum fun i _ => Bool.toNat_le _
  rwa [Finset.sum_const_nat fun _ _ => rfl, Finset.card_univ, Fintype.card_fin, Nat.mul_one]
    at hle

end Height

/-- What a state knows. -/
def State.height (state : State) : Nat :=
  known state.gp + known state.fpu + known state.stack + state.dartSpKnown.toNat +
    state.fpKnown.toNat

/-- A flag that is lost is a change. -/
theorem flag_lost (flag : Bool) (p : Prop) [Decidable p] :
    (if p then false else flag).toNat + (decide (flag ≠ if p then false else flag)).toNat ≤
      flag.toNat := by
  by_cases hp : p
  · cases flag <;> simp [hp]
  · simp [hp]

theorem toNat_or_le (a b : Bool) : (a || b).toNat ≤ a.toNat + b.toNat := by
  cases a <;> cases b <;> decide

/-- The offsets are not merged, so a change is one of the values or flags. -/
theorem mergeState_changed (destination incoming : State) :
    (mergeState destination incoming).2.toNat ≤
      (decide (destination.gp ≠ (mergeState destination incoming).1.gp)).toNat +
      (decide (destination.fpu ≠ (mergeState destination incoming).1.fpu)).toNat +
      (decide (destination.stack ≠ (mergeState destination incoming).1.stack)).toNat +
      (decide (destination.dartSpKnown ≠ (mergeState destination incoming).1.dartSpKnown)).toNat +
      (decide (destination.fpKnown ≠ (mergeState destination incoming).1.fpKnown)).toNat := by
  have heq : (mergeState destination incoming).2 =
      (decide (destination.gp ≠ (mergeState destination incoming).1.gp) ||
      (decide (destination.fpu ≠ (mergeState destination incoming).1.fpu) ||
      (decide (destination.stack ≠ (mergeState destination incoming).1.stack) ||
      (decide (destination.dartSpKnown ≠ (mergeState destination incoming).1.dartSpKnown) ||
      decide (destination.fpKnown ≠ (mergeState destination incoming).1.fpKnown))))) := by
    rw [Bool.eq_iff_iff]
    simp only [mergeState, ne_eq, not_true_eq_false, false_or, or_false, decide_eq_true_eq,
      Bool.or_eq_true]
  rw [heq]
  have h1 := toNat_or_le (decide (destination.gp ≠ (mergeState destination incoming).1.gp))
    (decide (destination.fpu ≠ (mergeState destination incoming).1.fpu) ||
      (decide (destination.stack ≠ (mergeState destination incoming).1.stack) ||
      (decide (destination.dartSpKnown ≠ (mergeState destination incoming).1.dartSpKnown) ||
      decide (destination.fpKnown ≠ (mergeState destination incoming).1.fpKnown))))
  have h2 := toNat_or_le (decide (destination.fpu ≠ (mergeState destination incoming).1.fpu))
    (decide (destination.stack ≠ (mergeState destination incoming).1.stack) ||
      (decide (destination.dartSpKnown ≠ (mergeState destination incoming).1.dartSpKnown) ||
      decide (destination.fpKnown ≠ (mergeState destination incoming).1.fpKnown)))
  have h3 := toNat_or_le (decide (destination.stack ≠ (mergeState destination incoming).1.stack))
    (decide (destination.dartSpKnown ≠ (mergeState destination incoming).1.dartSpKnown) ||
      decide (destination.fpKnown ≠ (mergeState destination incoming).1.fpKnown))
  have h4 := toNat_or_le
    (decide (destination.dartSpKnown ≠ (mergeState destination incoming).1.dartSpKnown))
    (decide (destination.fpKnown ≠ (mergeState destination incoming).1.fpKnown))
  omega

theorem mergeState_height (destination incoming : State) :
    (mergeState destination incoming).1.height + (mergeState destination incoming).2.toNat ≤
      destination.height := by
  have hgp := known_mergeSource destination.gp incoming.gp
  have hfpu := known_mergeSource destination.fpu incoming.fpu
  have hstack := known_mergeSource destination.stack incoming.stack
  have hsp := flag_lost destination.dartSpKnown
    (destination.dartSpKnown ≠ incoming.dartSpKnown ∨ (destination.dartSpKnown = true ∧
      destination.dartSpToEntry ≠ incoming.dartSpToEntry))
  have hfp := flag_lost destination.fpKnown
    (destination.fpKnown ≠ incoming.fpKnown ∨ (destination.fpKnown = true ∧
      destination.fpToEntry ≠ incoming.fpToEntry))
  have hchanged := mergeState_changed destination incoming
  change (known (mergeState destination incoming).1.gp) +
    (decide (destination.gp ≠ (mergeState destination incoming).1.gp)).toNat ≤ _ at hgp
  change (known (mergeState destination incoming).1.fpu) +
    (decide (destination.fpu ≠ (mergeState destination incoming).1.fpu)).toNat ≤ _ at hfpu
  change (known (mergeState destination incoming).1.stack) +
    (decide (destination.stack ≠ (mergeState destination incoming).1.stack)).toNat ≤ _ at hstack
  change (mergeState destination incoming).1.dartSpKnown.toNat +
    (decide (destination.dartSpKnown ≠ (mergeState destination incoming).1.dartSpKnown)).toNat ≤ _
    at hsp
  change (mergeState destination incoming).1.fpKnown.toNat +
    (decide (destination.fpKnown ≠ (mergeState destination incoming).1.fpKnown)).toNat ≤ _ at hfp
  unfold State.height
  omega

/-- A state that changes knows less. -/
theorem valueFlow_descends {address : BitVec 64} {size : Nat} {insns : List Insn}
    (h : Decodes address size insns) :
    (valueFlow (decode insns)).Descends State.height (31 + 32 + 129 + 1 + 1)
      (blockStarts insns).length where
  bounded := by
    intro state
    have hgp : known state.gp ≤ 31 := known_le _
    have hfpu : known state.fpu ≤ 32 := known_le _
    have hstack : known state.stack ≤ 129 := known_le _
    have hsp := Bool.toNat_le state.dartSpKnown
    have hfp := Bool.toNat_le state.fpKnown
    unfold State.height
    omega
  merge := mergeState_height
  successors := h.successors_lt

/-- `AnalyzeArm64Entry` returns. -/
theorem analyzeArm64Entry_ends {address : BitVec 64} {size : Nat} {insns : List Insn}
    (h : Decodes address size insns) :
    ∃ fuel, (analyzeArm64Entry insns address size fuel).isSome = true := by
  obtain ⟨final, hfinal⟩ := Option.isSome_iff_exists.mp
    ((valueFlow_descends h).run_isSome (Nat.lt_succ_self (Propagation.Flow.potential State.height
      (31 + 32 + 129 + 1 + 1) (blockStarts insns).length (Propagation.Flow.begin 0 .entry {}))))
  refine ⟨Propagation.Flow.potential State.height (31 + 32 + 129 + 1 + 1) (blockStarts insns).length
    (Propagation.Flow.begin 0 .entry {} : Work State ValueFacts) + 1, ?_⟩
  unfold analyzeArm64Entry
  split
  · rfl
  · rw [Option.isSome_map]
    exact Option.isSome_iff_exists.mpr ⟨final, hfinal⟩

end DartPlant.Analyzer
