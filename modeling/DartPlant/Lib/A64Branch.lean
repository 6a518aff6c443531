import DartPlant.Lib.BitField
import Mathlib

/-! # A64 branches

The branch instructions of the A64 instruction set, field by field, and where control can go after
one instruction.  A displacement counts instructions and is relative to the branch.
-/

namespace DartPlant.A64

variable {w : BitVec 32}

/-! ## Encodings -/

/-- `RET X30`. -/
def IsRet (w : BitVec 32) : Prop :=
  w.extractLsb' 10 22 = 0b1101011001011111000000#22 ∧ w.extractLsb' 5 5 = 30#5 ∧
    w.extractLsb' 0 5 = 0#5

/-- `BRK #imm16`. -/
def IsBrk (w : BitVec 32) : Prop :=
  w.extractLsb' 21 11 = 0b11010100001#11 ∧ w.extractLsb' 0 5 = 0#5

/-- Unconditional branch to a register. -/
def IsBranchRegister (w : BitVec 32) : Prop := w.extractLsb' 25 7 = 0b1101011#7

/-- The operation bits of the `BLR` family: a branch to a register that leaves a return address. -/
def IsReturningCall (w : BitVec 32) : Prop := w.extractLsb' 21 2 = 0b01#2

/-- `B`, not `BL`. -/
def IsB (w : BitVec 32) : Prop := w.extractLsb' 26 6 = 0b000101#6

/-- `B.cond`. -/
def IsBCond (w : BitVec 32) : Prop :=
  w.extractLsb' 24 8 = 0b01010100#8 ∧ w.extractLsb' 4 1 = 0#1

/-- `CBZ` and `CBNZ`. -/
def IsCompareBranch (w : BitVec 32) : Prop := w.extractLsb' 25 6 = 0b011010#6

/-- `TBZ` and `TBNZ`. -/
def IsTestBranch (w : BitVec 32) : Prop := w.extractLsb' 25 6 = 0b011011#6

/-- The displacement of `B`. -/
def imm26 (w : BitVec 32) : ℤ := (w.extractLsb' 0 26).toInt

/-- The displacement of `B.cond`, `CBZ` and `CBNZ`. -/
def imm19 (w : BitVec 32) : ℤ := (w.extractLsb' 5 19).toInt

/-- The displacement of `TBZ` and `TBNZ`. -/
def imm14 (w : BitVec 32) : ℤ := (w.extractLsb' 5 14).toInt

/-- An edge of the control flow graph of one function: calls come back, and a trap or a return has
no successor. -/
inductive Successor (w : BitVec 32) (pc : ℤ) : ℤ → Prop
  | b : IsB w → Successor w pc (pc + imm26 w * 4)
  | bCond : IsBCond w → Successor w pc (pc + imm19 w * 4)
  | compareBranch : IsCompareBranch w → Successor w pc (pc + imm19 w * 4)
  | testBranch : IsTestBranch w → Successor w pc (pc + imm14 w * 4)
  | «fallthrough» : ¬ IsRet w → ¬ IsBrk w → ¬ IsB w → Successor w pc (pc + 4)

/-! ## Bits that tell them apart -/

theorem IsRet.bits (h : IsRet w) : w.getLsbD 31 = true ∧ w.getLsbD 30 = true :=
  ⟨getLsbD_of_field h.1 (i := 21) (by omega), getLsbD_of_field h.1 (i := 20) (by omega)⟩

theorem IsBrk.bits (h : IsBrk w) : w.getLsbD 31 = true ∧ w.getLsbD 30 = true :=
  ⟨getLsbD_of_field h.1 (i := 10) (by omega), getLsbD_of_field h.1 (i := 9) (by omega)⟩

theorem IsB.bits (h : IsB w) : w.getLsbD 30 = false ∧ w.getLsbD 29 = false :=
  ⟨getLsbD_of_field h (i := 4) (by omega), getLsbD_of_field h (i := 3) (by omega)⟩

theorem IsBCond.bits (h : IsBCond w) : w.getLsbD 31 = false ∧ w.getLsbD 30 = true :=
  ⟨getLsbD_of_field h.1 (i := 7) (by omega), getLsbD_of_field h.1 (i := 6) (by omega)⟩

theorem IsCompareBranch.bits (h : IsCompareBranch w) :
    w.getLsbD 30 = false ∧ w.getLsbD 29 = true ∧ w.getLsbD 25 = false :=
  ⟨getLsbD_of_field h (i := 5) (by omega), getLsbD_of_field h (i := 4) (by omega),
    getLsbD_of_field h (i := 0) (by omega)⟩

theorem IsTestBranch.bits (h : IsTestBranch w) :
    w.getLsbD 30 = false ∧ w.getLsbD 29 = true ∧ w.getLsbD 25 = true :=
  ⟨getLsbD_of_field h (i := 5) (by omega), getLsbD_of_field h (i := 4) (by omega),
    getLsbD_of_field h (i := 0) (by omega)⟩

theorem IsBrk.not_branchRegister (h : IsBrk w) : ¬ IsBranchRegister w := by
  intro hregister
  have hclear : w.getLsbD 25 = false := getLsbD_of_field h.1 (i := 4) (by omega)
  have hset : w.getLsbD 25 = true := getLsbD_of_field hregister (i := 0) (by omega)
  exact Bool.false_ne_true (hclear.symm.trans hset)

/-! ## Successors by instruction -/

variable {pc t : ℤ}

theorem not_successor_of_bits (hbits : w.getLsbD 31 = true ∧ w.getLsbD 30 = true)
    (hends : IsRet w ∨ IsBrk w) : ¬ Successor w pc t := by
  intro h
  cases h with
  | b h => exact Bool.false_ne_true (h.bits.1.symm.trans hbits.2)
  | bCond h => exact Bool.false_ne_true (h.bits.1.symm.trans hbits.1)
  | compareBranch h => exact Bool.false_ne_true (h.bits.1.symm.trans hbits.2)
  | testBranch h => exact Bool.false_ne_true (h.bits.1.symm.trans hbits.2)
  | «fallthrough» hret hbrk => exact hends.elim hret hbrk

theorem IsRet.not_successor (h : IsRet w) : ¬ Successor w pc t :=
  not_successor_of_bits h.bits (Or.inl h)

theorem IsBrk.not_successor (h : IsBrk w) : ¬ Successor w pc t :=
  not_successor_of_bits h.bits (Or.inr h)

theorem IsB.successor_iff (h : IsB w) : Successor w pc t ↔ t = pc + imm26 w * 4 := by
  constructor
  · intro hsuccessor
    cases hsuccessor with
    | b => rfl
    | bCond h' => exact absurd (h.bits.1.symm.trans h'.bits.2) Bool.false_ne_true
    | compareBranch h' => exact absurd (h.bits.2.symm.trans h'.bits.2.1) Bool.false_ne_true
    | testBranch h' => exact absurd (h.bits.2.symm.trans h'.bits.2.1) Bool.false_ne_true
    | «fallthrough» _ _ hb => exact absurd h hb
  · rintro rfl
    exact .b h

/-- A conditional branch is none of the instructions that do not fall through. -/
theorem fallthrough_of_bits (hbits : w.getLsbD 31 = false ∨ w.getLsbD 30 = false)
    (hb : ¬ IsB w) : Successor w pc (pc + 4) := by
  have hends : ¬ (w.getLsbD 31 = true ∧ w.getLsbD 30 = true) := by
    rintro ⟨h31, h30⟩
    exact hbits.elim (fun h => Bool.false_ne_true (h.symm.trans h31))
      fun h => Bool.false_ne_true (h.symm.trans h30)
  exact .fallthrough (fun h => hends h.bits) (fun h => hends h.bits) hb

theorem IsBCond.successor_iff (h : IsBCond w) :
    Successor w pc t ↔ t = pc + imm19 w * 4 ∨ t = pc + 4 := by
  constructor
  · intro hsuccessor
    cases hsuccessor with
    | b h' => exact absurd (h'.bits.1.symm.trans h.bits.2) Bool.false_ne_true
    | bCond => exact Or.inl rfl
    | compareBranch h' => exact absurd (h'.bits.1.symm.trans h.bits.2) Bool.false_ne_true
    | testBranch h' => exact absurd (h'.bits.1.symm.trans h.bits.2) Bool.false_ne_true
    | «fallthrough» => exact Or.inr rfl
  · rintro (rfl | rfl)
    · exact .bCond h
    · exact fallthrough_of_bits (Or.inl h.bits.1) fun h' =>
        Bool.false_ne_true (h'.bits.1.symm.trans h.bits.2)

theorem IsCompareBranch.successor_iff (h : IsCompareBranch w) :
    Successor w pc t ↔ t = pc + imm19 w * 4 ∨ t = pc + 4 := by
  constructor
  · intro hsuccessor
    cases hsuccessor with
    | b h' => exact absurd (h'.bits.2.symm.trans h.bits.2.1) Bool.false_ne_true
    | bCond h' => exact absurd (h.bits.1.symm.trans h'.bits.2) Bool.false_ne_true
    | compareBranch => exact Or.inl rfl
    | testBranch h' => exact absurd (h.bits.2.2.symm.trans h'.bits.2.2) Bool.false_ne_true
    | «fallthrough» => exact Or.inr rfl
  · rintro (rfl | rfl)
    · exact .compareBranch h
    · exact fallthrough_of_bits (Or.inr h.bits.1) fun h' =>
        Bool.false_ne_true (h'.bits.2.symm.trans h.bits.2.1)

theorem IsTestBranch.successor_iff (h : IsTestBranch w) :
    Successor w pc t ↔ t = pc + imm14 w * 4 ∨ t = pc + 4 := by
  constructor
  · intro hsuccessor
    cases hsuccessor with
    | b h' => exact absurd (h'.bits.2.symm.trans h.bits.2.1) Bool.false_ne_true
    | bCond h' => exact absurd (h.bits.1.symm.trans h'.bits.2) Bool.false_ne_true
    | compareBranch h' => exact absurd (h'.bits.2.2.symm.trans h.bits.2.2) Bool.false_ne_true
    | testBranch => exact Or.inl rfl
    | «fallthrough» => exact Or.inr rfl
  · rintro (rfl | rfl)
    · exact .testBranch h
    · exact fallthrough_of_bits (Or.inr h.bits.1) fun h' =>
        Bool.false_ne_true (h'.bits.2.symm.trans h.bits.2.1)

/-- An instruction that is no direct branch and does not end the flow falls through. -/
theorem successor_iff_fallthrough (hret : ¬ IsRet w) (hbrk : ¬ IsBrk w) (hb : ¬ IsB w)
    (hcond : ¬ IsBCond w) (hcompare : ¬ IsCompareBranch w) (htest : ¬ IsTestBranch w) :
    Successor w pc t ↔ t = pc + 4 := by
  constructor
  · intro hsuccessor
    cases hsuccessor with
    | b h => exact absurd h hb
    | bCond h => exact absurd h hcond
    | compareBranch h => exact absurd h hcompare
    | testBranch h => exact absurd h htest
    | «fallthrough» => rfl
  · rintro rfl
    exact .fallthrough hret hbrk hb

/-! ## Displacements -/

theorem imm26_lt : imm26 w * 4 < 2 ^ 63 := by
  have h := BitVec.two_mul_toInt_lt (x := w.extractLsb' 0 26)
  unfold imm26
  omega

theorem imm19_lt : imm19 w * 4 < 2 ^ 63 := by
  have h := BitVec.two_mul_toInt_lt (x := w.extractLsb' 5 19)
  unfold imm19
  omega

theorem imm14_lt : imm14 w * 4 < 2 ^ 63 := by
  have h := BitVec.two_mul_toInt_lt (x := w.extractLsb' 5 14)
  unfold imm14
  omega

end DartPlant.A64
