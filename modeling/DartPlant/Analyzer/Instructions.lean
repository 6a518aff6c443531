import DartPlant.Core.Status
import Mathlib.Data.BitVec

/-! # ARM64 instructions as the analyzer sees them

A code buffer comes out of Capstone as a list of instructions, and an `Insn` is what the analyzer
reads of one of them: its id, its condition, its operands, and the registers that `cs_regs_access`
reports.  Every instruction has its details, since `CS_OPT_DETAIL` is on.
-/

namespace DartPlant.Analyzer

/-- `aarch64_reg`; x29 and x30 have names of their own. -/
inductive AArch64Reg where
  | invalid
  | x (index : Fin 29)
  | fp
  | lr
  | w (index : Fin 31)
  | d (index : Fin 32)
  | xzr
  | wzr
  | other (code : Nat)
  deriving DecidableEq, Repr

inductive InsnId where
  | b
  | bc
  | cbz
  | cbnz
  | tbz
  | tbnz
  | ret
  | br
  | brk
  | bl
  | blr
  | adr
  | adrp
  | hint
  | add
  | sub
  | mov
  | orr
  | fmov
  | ldr
  | ldur
  | ldp
  | str
  | stur
  | stp
  | fadd
  | fsub
  | fmul
  | fdiv
  | fneg
  | fabs
  | fsqrt
  | fcmp
  | sdiv
  | udiv
  | sdivr
  | udivr
  | smulh
  | umulh
  | other (code : Nat)
  deriving DecidableEq, Repr

inductive ConditionCode where
  | invalid
  | al
  | other (code : Nat)
  deriving DecidableEq, Repr

/-- `cs_aarch64_op`; an immediate is an `int64_t` and a displacement an `int32_t`. -/
inductive Operand where
  | reg (reg : AArch64Reg)
  | imm (imm : BitVec 64)
  | mem (base : AArch64Reg) (disp : BitVec 32)
  | other
  deriving DecidableEq, Repr

structure Insn where
  id : InsnId
  address : BitVec 64
  operands : List Operand := []
  cc : ConditionCode := .invalid
  writeback : Bool := false
  postIndex : Bool := false
  /-- `cs_regs_access` succeeds. -/
  accessOk : Bool := true
  regsRead : List AArch64Reg := []
  regsWrite : List AArch64Reg := []
  deriving DecidableEq, Repr

namespace AArch64Reg

/-- `IsGpRegister`, with `RegisterIndex`. -/
def gpIndex : AArch64Reg → Option (Fin 31)
  | .x index => some (index.castLE (by decide))
  | .fp => some 29
  | .lr => some 30
  | .w index => some index
  | _ => none

/-- `IsFpuRegister`, with `RegisterIndex`. -/
def fpuIndex : AArch64Reg → Option (Fin 32)
  | .d index => some index
  | _ => none

def isZeroRegister (reg : AArch64Reg) : Bool := reg == .xzr || reg == .wzr

/-- `SameGpRegister`. -/
def sameGp (left right : AArch64Reg) : Bool :=
  left.gpIndex.isSome && left.gpIndex == right.gpIndex

end AArch64Reg

namespace Insn
variable (insn : Insn)

/-- The immediate at an operand. -/
def immAt (index : Nat) : Option (BitVec 64) :=
  match insn.operands[index]? with
  | some (.imm value) => some value
  | _ => none

def isConditionalBranch : Bool :=
  insn.id == .b && insn.cc != .invalid && insn.cc != .al ||
    insn.id == .bc || insn.id == .cbz || insn.id == .cbnz || insn.id == .tbz || insn.id == .tbnz

def isTerminator : Bool :=
  insn.id == .ret || insn.id == .br || insn.id == .brk || insn.id == .b || insn.isConditionalBranch

def isDirectBranch : Bool := insn.id == .b || insn.isConditionalBranch

/-- The target that the analyzer takes a direct branch to have. -/
def operandTarget : Option (BitVec 64) := if insn.isDirectBranch then insn.immAt 0 else none

/-! ## What the architecture says -/

/-- Which operand is the target of a direct branch. -/
def targetOperand : Option Nat :=
  match insn.id with
  | .b | .bc => some 0
  | .cbz | .cbnz => some 1
  | .tbz | .tbnz => some 2
  | _ => none

def branchTarget : Option (BitVec 64) := insn.targetOperand.bind insn.immAt

/-- CBZ, CBNZ, TBZ and TBNZ. -/
def ComparesAndBranches : Prop :=
  insn.id = .cbz ∨ insn.id = .cbnz ∨ insn.id = .tbz ∨ insn.id = .tbnz

instance : Decidable insn.ComparesAndBranches := inferInstanceAs (Decidable (_ ∨ _ ∨ _ ∨ _))

/-- Everything falls through except RET, BR, BRK and an unconditional B. -/
def FallsThrough : Prop :=
  insn.id ≠ .ret ∧ insn.id ≠ .br ∧ insn.id ≠ .brk ∧
    (insn.id = .b → insn.isConditionalBranch = true)

instance : Decidable insn.FallsThrough := inferInstanceAs (Decidable (_ ∧ _ ∧ _ ∧ _))

/-- Capstone's operands of the branches and of BL. -/
structure OperandOrder : Prop where
  target : insn.targetOperand.isSome = true → insn.branchTarget.isSome = true
  compared : insn.ComparesAndBranches → ∃ reg, insn.operands[0]? = some (.reg reg)
  call : insn.id = .bl → (insn.immAt 0).isSome = true

end Insn

/-- A buffer that decodes completely: a word for each instruction, at consecutive addresses, and
branches that go by whole words. -/
structure Decodes (address : BitVec 64) (size : Nat) (insns : List Insn) : Prop where
  length : size = 4 * insns.length
  fits : size < 2 ^ 64
  addresses : ∀ i insn, insns[i]? = some insn → insn.address = address + BitVec.ofNat 64 (4 * i)
  order : ∀ insn ∈ insns, insn.OperandOrder
  aligned : ∀ insn ∈ insns, ∀ target, insn.branchTarget = some target →
    4 ∣ (target - insn.address).toNat

end DartPlant.Analyzer
