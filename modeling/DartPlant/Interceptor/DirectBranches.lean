import DartPlant.Interceptor.ReturnInterception

/-! # Direct branches to near code

`EncodeDirectBranch` writes the displacement of an unconditional branch, and `DecodeDirectBranch`
reads it back.  The displacement is the signed difference of the two addresses, and the encoding has
26 bits for the number of instructions in it.
-/

namespace DartPlant

/-- `kArm64BranchReach`. -/
def kArm64BranchReach : Nat := 2 ^ 27

section Encoding
variable {source target : Address}

/-- The low two bits. -/
theorem and_three_eq_zero {word : Address} : word &&& 3 = 0 ↔ word.toNat % 4 = 0 := by
  rw [← BitVec.toNat_inj, BitVec.toNat_and]
  exact Iff.of_eq (congrArg (· = 0) (Nat.and_two_pow_sub_one_eq_mod word.toNat 2))

/-- The signed difference of two near words. -/
theorem toInt_sub_of_near
    (hlow : -(kArm64BranchReach : Int) < (target.toNat : Int) - source.toNat)
    (hhigh : (target.toNat : Int) - source.toNat < kArm64BranchReach) :
    (target - source).toInt = (target.toNat : Int) - source.toNat := by
  have hsource := source.isLt
  have htarget := target.isLt
  unfold kArm64BranchReach at hlow hhigh
  rw [BitVec.toInt_eq_toNat_cond, BitVec.toNat_sub]
  split <;> omega

/-- The opcode is above the immediate. -/
theorem branch_opcode (imm : BitVec 32) :
    (0x14000000#32 ||| (imm &&& 0x03ffffff#32)) &&& 0xfc000000#32 = 0x14000000#32 := by
  have himm : (imm &&& 0x03ffffff#32) &&& 0xfc000000#32 = 0#32 := by
    rw [BitVec.and_assoc, show 0x03ffffff#32 &&& 0xfc000000#32 = 0#32 from rfl, BitVec.and_zero]
  rw [BitVec.and_or_distrib_right, himm, BitVec.or_zero]
  rfl

/-- The immediate is below the opcode. -/
theorem branch_imm26 (imm : BitVec 32) :
    (0x14000000#32 ||| (imm &&& 0x03ffffff#32)).extractLsb' 0 26 = imm.setWidth 26 := by
  have hopcode : ∀ i < 26, (0x14000000#32).getLsbD i = false := by decide
  have hmask : ∀ i < 26, (0x03ffffff#32).getLsbD i = true := by decide
  ext i hi
  rw [BitVec.getElem_extractLsb', Nat.zero_add, BitVec.getLsbD_or, BitVec.getLsbD_and,
    hopcode i hi, hmask i hi, Bool.and_true, Bool.false_or, BitVec.getElem_setWidth]

/-- An immediate in reach, cut to its field. -/
theorem toInt_imm26 {imm : Int} (hlow : -2 ^ 25 ≤ imm) (hhigh : imm < 2 ^ 25) :
    ((BitVec.ofInt 32 imm).setWidth 26).toInt = imm := by
  rw [BitVec.toInt_setWidth, BitVec.toNat_ofInt, Int.bmod_def]
  omega

/-- A branch to an aligned place in reach is encoded, and decoded to the same displacement. -/
theorem decode_encodeDirectBranch (hsource : source.toNat % 4 = 0) (htarget : target.toNat % 4 = 0)
    (hlow : -(kArm64BranchReach : Int) < (target.toNat : Int) - source.toNat)
    (hhigh : (target.toNat : Int) - source.toNat < kArm64BranchReach) :
    ∃ instruction, encodeDirectBranch source target = some instruction ∧
      decodeDirectBranch instruction = some ((target.toNat : Int) - source.toNat, false) := by
  have hdelta := toInt_sub_of_near hlow hhigh
  unfold kArm64BranchReach at hlow hhigh
  have hplaces : ¬ (source &&& 3 ≠ 0 ∨ target &&& 3 ≠ 0) := by
    rw [not_or, not_not, not_not, and_three_eq_zero, and_three_eq_zero]
    exact ⟨hsource, htarget⟩
  have hencode : encodeDirectBranch source target = some (0x14000000#32 |||
      (BitVec.ofInt 32 (((target.toNat : Int) - source.toNat) / 4) &&& 0x03ffffff#32)) := by
    unfold encodeDirectBranch
    rw [if_neg hplaces]
    dsimp only
    rw [hdelta, if_neg (by omega)]
  refine ⟨_, hencode, ?_⟩
  rw [decodeDirectBranch, if_pos (branch_opcode _), branchOffset, branch_imm26,
    toInt_imm26 (by omega) (by omega), Int.ediv_mul_cancel (by omega)]

end Encoding

end DartPlant
