import DartPlant.Interceptor.ReturnSites
import DartPlant.Lib.A64Branch
import DartPlant.Lib.Worklist

/-! # The reachable returns

What `collectReachableArm64Returns` computes, stated over addresses and the A64 encodings alone:
it gives the returns that control can reach from the first instruction, or gives up because control
can leave the code, can jump through a register, or cannot return.

Three layers are joined here.  The masks of the decoder are read as instruction fields, the walk is
an instance of the worklist search, and the indices of the range stand for its addresses.
-/

namespace DartPlant
open CodeRange List BitVec

open A64

/-! ## Decoding -/

section Decoding
variable {w : Instruction}

theorem isDartReturn_iff : isDartReturn w = true ↔ IsRet w := by
  have hmask : fieldMask 32 10 22 ||| (fieldMask 32 5 5 ||| fieldMask 32 0 5) =
      BitVec.allOnes 32 := by decide
  have hvalue : inField 32 10 0b1101011001011111000000#22 |||
      (inField 32 5 30#5 ||| inField 32 0 0#5) = 0xd65f03c0#32 := by decide
  rw [IsRet, ← and_fieldMask (by omega), ← and_fieldMask (by omega), ← and_fieldMask (by omega),
    ← and_or_eq (by decide) (by decide) (by decide),
    ← and_or_eq (by decide) (by decide) (by decide), hmask, hvalue, and_allOnes]
  exact beq_iff_eq

theorem isTerminalTrap_iff : isTerminalTrap w = true ↔ IsBrk w := by
  have hmask : fieldMask 32 21 11 ||| fieldMask 32 0 5 = 0xffe0001f#32 := by decide
  have hvalue : inField 32 21 0b11010100001#11 ||| inField 32 0 0#5 = 0xd4200000#32 := by decide
  rw [IsBrk, ← and_fieldMask (by omega), ← and_fieldMask (by omega),
    ← and_or_eq (by decide) (by decide) (by decide), hmask, hvalue]
  exact beq_iff_eq

theorem branchRegister_iff : w &&& 0xfe000000#32 = 0xd6000000#32 ↔ IsBranchRegister w :=
  and_mask_iff (by omega) (by decide) (by decide)

theorem returningCall_iff :
    (w.getLsbD 21 && !w.getLsbD 22) = true ↔ IsReturningCall w := by
  rw [Bool.and_eq_true, Bool.not_eq_true']
  constructor
  · rintro ⟨hlow, hhigh⟩
    apply eq_of_getLsbD_eq
    intro i hi
    rw [getLsbD_extractLsb', decide_eq_true hi, Bool.true_and]
    obtain rfl | rfl : i = 0 ∨ i = 1 := by omega
    · exact hlow
    · exact hhigh
  · intro h
    exact ⟨getLsbD_of_field h (i := 0) (by omega), getLsbD_of_field h (i := 1) (by omega)⟩

theorem isIndirectBranch_iff :
    isIndirectBranch w = true ↔ IsBranchRegister w ∧ ¬ IsReturningCall w := by
  rw [isIndirectBranch, ← branchRegister_iff, ← returningCall_iff]
  split
  next hne => exact iff_of_false Bool.false_ne_true fun h => hne h.1
  next heq => simp only [Bool.not_eq_true', Bool.not_eq_true, not_not.mp heq, true_and]

theorem b_iff : w &&& 0xfc000000#32 = 0x14000000#32 ↔ IsB w :=
  and_mask_iff (by omega) (by decide) (by decide)

theorem bCond_iff : w &&& 0xff000010#32 = 0x54000000#32 ↔ IsBCond w := by
  have hmask : fieldMask 32 24 8 ||| fieldMask 32 4 1 = 0xff000010#32 := by decide
  have hvalue : inField 32 24 0b01010100#8 ||| inField 32 4 0#1 = 0x54000000#32 := by decide
  rw [IsBCond, ← and_fieldMask (by omega), ← and_fieldMask (by omega),
    ← and_or_eq (by decide) (by decide) (by decide), hmask, hvalue]

theorem compareBranch_iff : w &&& 0x7e000000#32 = 0x34000000#32 ↔ IsCompareBranch w :=
  and_mask_iff (by omega) (by decide) (by decide)

theorem testBranch_iff : w &&& 0x7e000000#32 = 0x36000000#32 ↔ IsTestBranch w :=
  and_mask_iff (by omega) (by decide) (by decide)

theorem decode_b (hb : IsB w) : decodeDirectBranch w = some (imm26 w * 4, false) :=
  if_pos (b_iff.mpr hb)

theorem decode_bCond (hb : ¬ IsB w) (hcond : IsBCond w) :
    decodeDirectBranch w = some (imm19 w * 4, true) := by
  rw [decodeDirectBranch, if_neg (mt b_iff.mp hb), if_pos (bCond_iff.mpr hcond)]
  rfl

theorem decode_compareBranch (hb : ¬ IsB w) (hcond : ¬ IsBCond w) (hcompare : IsCompareBranch w) :
    decodeDirectBranch w = some (imm19 w * 4, true) := by
  rw [decodeDirectBranch, if_neg (mt b_iff.mp hb), if_neg (mt bCond_iff.mp hcond),
    if_pos (compareBranch_iff.mpr hcompare)]
  rfl

theorem decode_testBranch (hb : ¬ IsB w) (hcond : ¬ IsBCond w) (hcompare : ¬ IsCompareBranch w)
    (htest : IsTestBranch w) : decodeDirectBranch w = some (imm14 w * 4, true) := by
  rw [decodeDirectBranch, if_neg (mt b_iff.mp hb), if_neg (mt bCond_iff.mp hcond),
    if_neg (mt compareBranch_iff.mp hcompare), if_pos (testBranch_iff.mpr htest)]
  rfl

theorem decode_none (hb : ¬ IsB w) (hcond : ¬ IsBCond w) (hcompare : ¬ IsCompareBranch w)
    (htest : ¬ IsTestBranch w) : decodeDirectBranch w = none := by
  rw [decodeDirectBranch, if_neg (mt b_iff.mp hb), if_neg (mt bCond_iff.mp hcond),
    if_neg (mt compareBranch_iff.mp hcompare), if_neg (mt testBranch_iff.mp htest)]

/-- A branch to a register that neither returns nor comes back. -/
def LeavesThroughRegister (w : Instruction) : Prop :=
  IsBranchRegister w ∧ ¬ IsReturningCall w ∧ ¬ IsRet w

end Decoding

/-! ## Addresses -/

theorem and_three {x : BitVec 64} (hx : 4 ∣ x.toNat) : x &&& 3 = 0 := by
  apply eq_of_toNat_eq
  rw [toNat_and, show (3 : BitVec 64).toNat = 2 ^ 2 - 1 from rfl,
    Nat.and_two_pow_sub_one_eq_mod, show (0 : BitVec 64).toNat = 0 from rfl]
  omega

namespace CodeRange
variable {range : CodeRange} {index target : Fin range.count}

/-- The address of the instruction at an index, as a number. -/
def addressOf (range : CodeRange) (index : Fin range.count) : ℤ :=
  range.logicalStart.toNat + 4 * index.val

/-- The code is made of aligned words and lies in the lower half of the address space. -/
def InLowerHalf (range : CodeRange) : Prop :=
  4 ∣ range.logicalStart.toNat ∧ range.logicalStart.toNat + 4 * range.count ≤ 2 ^ 63

theorem toNat_pc (h : range.InLowerHalf) (index : Fin range.count) :
    ((range.pc index).toNat : ℤ) = range.addressOf index := by
  have hindex := index.isLt
  have hbound := h.2
  rw [pc, addressOf, toNat_add, BitVec.toNat_ofNat]
  omega

theorem toInt_pc (h : range.InLowerHalf) (index : Fin range.count) :
    (range.pc index).toInt = range.addressOf index := by
  have hpc := toNat_pc h index
  have hindex := index.isLt
  have hbound := h.2
  rw [toInt_eq_toNat_of_lt, hpc]
  unfold addressOf at hpc
  omega

theorem enqueue_iff (h : range.InLowerHalf) {t : ℤ} (hnonneg : 0 ≤ t) (hlt : t < 2 ^ 64)
    (hdvd : 4 ∣ t) : range.enqueue (BitVec.ofInt 64 t) = some target ↔
      t = range.addressOf target := by
  have hindex := target.isLt
  obtain ⟨haligned, hbound⟩ := h
  have ht : ((BitVec.ofInt 64 t).toNat : ℤ) = t := by
    rw [toNat_ofInt]
    omega
  have hmod : BitVec.ofInt 64 t &&& 3 = 0 := and_three (by omega)
  have hend : (range.logicalStart + BitVec.ofNat 64 (4 * range.count)).toNat =
      range.logicalStart.toNat + 4 * range.count := by
    rw [toNat_add, BitVec.toNat_ofNat]
    omega
  unfold enqueue addressOf
  split
  next hout =>
    refine iff_of_false nofun fun heq => ?_
    rw [lt_def, ge_iff_le, le_def, hend] at hout
    rcases hout with hbefore | hafter | hne
    · omega
    · omega
    · exact hne hmod
  next hin =>
    rw [lt_def, ge_iff_le, le_def, hend] at hin
    have hsub : (BitVec.ofInt 64 t - range.logicalStart).toNat =
        (BitVec.ofInt 64 t).toNat - range.logicalStart.toNat :=
      toNat_sub_of_le (le_def.mpr (by omega))
    rw [dif_pos (by rw [hsub]; omega), Option.some.injEq, Fin.ext_iff]
    show (BitVec.ofInt 64 t - range.logicalStart).toNat / 4 = target.val ↔ _
    rw [hsub]
    omega

theorem branchTarget_iff (h : range.InLowerHalf) {displacement : ℤ}
    (hlt : displacement * 4 < 2 ^ 63) : range.branchTarget index (displacement * 4) = some target ↔
      range.addressOf index + displacement * 4 = range.addressOf target := by
  have hbound := h.2
  have haligned := h.1
  have hindex := index.isLt
  unfold branchTarget
  rw [toInt_pc h]
  dsimp only
  split
  next hneg =>
    refine iff_of_false nofun fun heq => ?_
    unfold addressOf at hneg heq
    omega
  next hnonneg =>
    refine enqueue_iff h (not_lt.mp hnonneg) ?_ ?_
    · unfold addressOf
      omega
    · unfold addressOf
      omega

theorem fallthrough_iff : range.fallthrough index = some target ↔
    range.addressOf index + 4 = range.addressOf target := by
  have htarget := target.isLt
  unfold «fallthrough» addressOf
  split
  next hin =>
    rw [Option.some.injEq, Fin.ext_iff]
    dsimp only
    omega
  next hout =>
    refine iff_of_false nofun fun heq => ?_
    omega

/-! ## One visit -/

/-- The addresses an instruction leads to are those of some indices. -/
def Leads (range : CodeRange) (index : Fin range.count) (targets : List (Fin range.count)) : Prop :=
  ∀ t, Successor (range.word index) (range.addressOf index) t ↔
    ∃ target ∈ targets, t = range.addressOf target

/-- Control can go to an address that no index has. -/
def LeadsOut (range : CodeRange) (index : Fin range.count) : Prop :=
  ∃ t, Successor (range.word index) (range.addressOf index) t ∧
    ∀ target, t ≠ range.addressOf target

theorem leads_nil (h : ∀ t, ¬ Successor (range.word index) (range.addressOf index) t) :
    range.Leads index [] := by
  intro t
  refine iff_of_false (h t) ?_
  rintro ⟨target, htarget, -⟩
  exact not_mem_nil htarget

theorem leads_singleton {t₁ : ℤ}
    (h : ∀ t, Successor (range.word index) (range.addressOf index) t ↔ t = t₁)
    (h₁ : t₁ = range.addressOf target) : range.Leads index [target] := by
  intro t
  rw [h, h₁]
  simp only [mem_singleton, exists_eq_left]

theorem leads_pair {t₁ t₂ : ℤ} {after : Fin range.count}
    (h : ∀ t, Successor (range.word index) (range.addressOf index) t ↔ t = t₁ ∨ t = t₂)
    (h₁ : t₁ = range.addressOf target) (h₂ : t₂ = range.addressOf after) :
    range.Leads index [after, target] := by
  intro t
  rw [h, h₁, h₂]
  simp only [mem_cons, not_mem_nil, or_false, exists_eq_or_imp, exists_eq_left]
  exact or_comm

/-- What a visit says about the instruction it looks at. -/
def VisitMeans (range : CodeRange) (index : Fin range.count) : Visit range.count → Prop
  | .return => IsRet (range.word index)
  | .next targets => ¬ IsRet (range.word index) ∧ ¬ LeavesThroughRegister (range.word index) ∧
      range.Leads index targets
  | .unsupported => LeavesThroughRegister (range.word index) ∨ range.LeadsOut index

theorem visitMeans_conditional (h : range.InLowerHalf) {displacement : ℤ}
    (hlt : displacement * 4 < 2 ^ 63) (hret : ¬ IsRet (range.word index))
    (hregister : ¬ LeavesThroughRegister (range.word index))
    (hsuccessor : ∀ t, Successor (range.word index) (range.addressOf index) t ↔
      t = range.addressOf index + displacement * 4 ∨ t = range.addressOf index + 4) :
    range.VisitMeans index
      (match range.branchTarget index (displacement * 4) with
      | none => .unsupported
      | some target =>
        match range.fallthrough index with
        | none => .unsupported
        | some after => .next [after, target]) := by
  cases htarget : range.branchTarget index (displacement * 4) with
  | none =>
    refine Or.inr ⟨_, (hsuccessor _).mpr (Or.inl rfl), fun target heq => ?_⟩
    exact nomatch htarget.symm.trans ((branchTarget_iff h hlt).mpr heq)
  | some target =>
    have htarget := (branchTarget_iff h hlt).mp htarget
    cases hafter : range.fallthrough index with
    | none =>
      refine Or.inr ⟨_, (hsuccessor _).mpr (Or.inr rfl), fun after heq => ?_⟩
      exact nomatch hafter.symm.trans (fallthrough_iff.mpr heq)
    | some after =>
      exact ⟨hret, hregister, leads_pair hsuccessor htarget (fallthrough_iff.mp hafter)⟩

theorem visit_means (h : range.InLowerHalf) (index : Fin range.count) :
    range.VisitMeans index (range.visit index) := by
  unfold visit
  dsimp only
  split
  next hret => exact isDartReturn_iff.mp hret
  next hret =>
    have hret := mt isDartReturn_iff.mpr hret
    split
    next hbrk =>
      have hbrk := isTerminalTrap_iff.mp hbrk
      exact ⟨hret, fun hregister => hbrk.not_branchRegister hregister.1,
        leads_nil fun t => hbrk.not_successor⟩
    next hbrk =>
      have hbrk := mt isTerminalTrap_iff.mpr hbrk
      split
      next hindirect =>
        obtain ⟨hbranch, hcall⟩ := isIndirectBranch_iff.mp hindirect
        exact Or.inl ⟨hbranch, hcall, hret⟩
      next hindirect =>
        have hregister : ¬ LeavesThroughRegister (range.word index) := fun hregister =>
          hindirect (isIndirectBranch_iff.mpr ⟨hregister.1, hregister.2.1⟩)
        by_cases hb : IsB (range.word index)
        · rw [decode_b hb]
          dsimp only
          cases htarget : range.branchTarget index (imm26 (range.word index) * 4) with
          | none =>
            refine Or.inr ⟨_, hb.successor_iff.mpr rfl, fun target heq => ?_⟩
            exact nomatch htarget.symm.trans ((branchTarget_iff h imm26_lt).mpr heq)
          | some target =>
            exact ⟨hret, hregister, leads_singleton (fun t => hb.successor_iff)
              ((branchTarget_iff h imm26_lt).mp htarget)⟩
        by_cases hcond : IsBCond (range.word index)
        · rw [decode_bCond hb hcond]
          exact visitMeans_conditional h imm19_lt hret hregister fun t => hcond.successor_iff
        by_cases hcompare : IsCompareBranch (range.word index)
        · rw [decode_compareBranch hb hcond hcompare]
          exact visitMeans_conditional h imm19_lt hret hregister fun t => hcompare.successor_iff
        by_cases htest : IsTestBranch (range.word index)
        · rw [decode_testBranch hb hcond hcompare htest]
          exact visitMeans_conditional h imm14_lt hret hregister fun t => htest.successor_iff
        · rw [decode_none hb hcond hcompare htest]
          dsimp only
          have hsuccessor : ∀ t, Successor (range.word index) (range.addressOf index) t ↔
              t = range.addressOf index + 4 := fun t =>
            successor_iff_fallthrough hret hbrk hb hcond hcompare htest
          cases hafter : range.fallthrough index with
          | none =>
            refine Or.inr ⟨_, (hsuccessor _).mpr rfl, fun after heq => ?_⟩
            exact nomatch hafter.symm.trans (fallthrough_iff.mpr heq)
          | some after =>
            exact ⟨hret, hregister, leads_singleton hsuccessor (fallthrough_iff.mp hafter)⟩

/-! ## The walk as a search -/

/-- The indices a visit adds to the worklist. -/
def expand (range : CodeRange) (index : Fin range.count) : Option (List (Fin range.count)) :=
  match range.visit index with
  | .return => some []
  | .next targets => some targets
  | .unsupported => none

theorem expand_none_iff : range.expand index = none ↔ range.visit index = .unsupported := by
  unfold expand
  split
  next h => exact iff_of_false nofun (h ▸ nofun)
  next h => exact iff_of_false nofun (h ▸ nofun)
  next h => exact iff_of_true rfl h

/-- A search that ends with the returns of the nodes it found, or with none when it fails. -/
def Finds (range : CodeRange) (visited : Set (Fin range.count)) (pending : List (Fin range.count)) :
    Option (List (Fin range.count)) → Prop
  | none => Search range.expand visited pending none
  | some out => ∃ found, Search range.expand visited pending (some found) ∧
      ∀ index, index ∈ out ↔ index ∈ found ∧ range.visit index = .return

theorem Finds.skip {visited : Set (Fin range.count)} {pending : List (Fin range.count)}
    {out : Option (List (Fin range.count))} (hvisited : index ∈ visited)
    (h : range.Finds visited pending out) : range.Finds visited (index :: pending) out := by
  cases out with
  | none => exact Search.skip hvisited h
  | some out =>
    obtain ⟨found, hsearch, hout⟩ := h
    exact ⟨found, hsearch.skip hvisited, hout⟩

theorem Finds.expand {visited : Finset (Fin range.count)} {pending targets : List (Fin range.count)}
    {out : Option (List (Fin range.count))} (hvisited : index ∉ visited)
    (hexpand : range.expand index = some targets)
    (h : range.Finds ↑(insert index visited) (targets ++ pending) out) :
    range.Finds ↑visited (index :: pending) out := by
  rw [Finset.coe_insert] at h
  cases out with
  | none => exact Search.expand hvisited hexpand h
  | some out =>
    obtain ⟨found, hsearch, hout⟩ := h
    exact ⟨found, hsearch.expand hvisited hexpand, hout⟩

/-- With enough fuel the walk is the search, which ends; it lists the returns of the nodes
found. -/
theorem walk_finds {fuel : ℕ} {visited : Finset (Fin range.count)}
    {pending returns : List (Fin range.count)} (hfuel : range.walkMeasure visited pending < fuel)
    (hreturns : ∀ index, index ∈ returns ↔ index ∈ visited ∧ range.visit index = .return) :
    range.Finds ↑visited pending (range.walk fuel visited pending returns) := by
  fun_induction range.walk fuel visited pending returns with
  | case1 => omega
  | case2 => exact ⟨_, .done, hreturns⟩
  | case3 fuel visited index pending returns hvisited ih =>
    refine Finds.skip hvisited (ih ?_ hreturns)
    simp only [walkMeasure, length_cons] at hfuel ⊢
    omega
  | case4 fuel visited index pending returns hvisited hvisit ih =>
    have hexpand : range.expand index = some [] := by
      rw [expand, hvisit]
    have hless : range.walkMeasure (insert index visited) ([] ++ pending) <
        range.walkMeasure visited (index :: pending) :=
      walkMeasure_insert hvisited (Nat.zero_le 2)
    have hless := Nat.lt_of_lt_of_le hless (Nat.le_of_lt_succ hfuel)
    refine Finds.expand hvisited hexpand (ih hless ?_)
    intro other
    rw [mem_append, mem_singleton, Finset.mem_insert, hreturns]
    constructor
    · rintro (⟨hother, hreturn⟩ | rfl)
      · exact ⟨Or.inr hother, hreturn⟩
      · exact ⟨Or.inl rfl, hvisit⟩
    · rintro ⟨rfl | hother, hreturn⟩
      · exact Or.inr rfl
      · exact Or.inl ⟨hother, hreturn⟩
  | case5 fuel visited index pending returns hvisited hvisit =>
    exact Search.fail hvisited (expand_none_iff.mpr hvisit)
  | case6 fuel visited index pending returns hvisited targets hvisit ih =>
    have hexpand : range.expand index = some targets := by
      rw [expand, hvisit]
    have hless : range.walkMeasure (insert index visited) (targets ++ pending) <
        range.walkMeasure visited (index :: pending) :=
      walkMeasure_insert hvisited (visit_length hvisit)
    have hless := Nat.lt_of_lt_of_le hless (Nat.le_of_lt_succ hfuel)
    refine Finds.expand hvisited hexpand (ih hless ?_)
    intro other
    rw [Finset.mem_insert, hreturns]
    constructor
    · rintro ⟨hother, hreturn⟩
      exact ⟨Or.inr hother, hreturn⟩
    · rintro ⟨rfl | hother, hreturn⟩
      · cases hreturn.symm.trans hvisit
      · exact ⟨hother, hreturn⟩

end CodeRange

/-! ## Reachable addresses -/

section Reaches
variable (pristine : Address → Instruction) (size : BitVec 64) (logicalStart : Address)

/-- An address inside the code. -/
def InCode (t : ℤ) : Prop := logicalStart.toNat ≤ t ∧ t < logicalStart.toNat + size.toNat

/-- The word at an address. -/
def wordAt (t : ℤ) : Instruction := pristine (BitVec.ofInt 64 t)

/-- Control can get from the first instruction to an address, inside the code up to there. -/
inductive Reaches : ℤ → Prop
  | start : Reaches logicalStart.toNat
  | step {pc t : ℤ} : Reaches pc → InCode size logicalStart pc →
      Successor (wordAt pristine pc) pc t → Reaches t

/-- The code as the walk sees it. -/
def codeRange : CodeRange where
  count := size.toNat / 4
  word := fun index => pristine (logicalStart + BitVec.ofNat 64 (4 * index))
  logicalStart := logicalStart

end Reaches

section Correspondence
variable {pristine : Address → Instruction} {size : BitVec 64} {logicalStart : Address}

theorem word_codeRange (index : Fin (codeRange pristine size logicalStart).count) :
    (codeRange pristine size logicalStart).word index =
      wordAt pristine ((codeRange pristine size logicalStart).addressOf index) := by
  refine congrArg pristine ?_
  show logicalStart + BitVec.ofNat 64 (4 * index) = BitVec.ofInt 64 (logicalStart.toNat + 4 * index)
  rw [ofInt_add, ofInt_natCast, ofNat_toNat, setWidth_eq]
  exact congrArg _ (ofInt_natCast 64 (4 * index)).symm

theorem inCode_iff (hsize : 4 ∣ size.toNat) {t : ℤ} (ht : 4 ∣ t - logicalStart.toNat) :
    InCode size logicalStart t ↔
      ∃ index, t = (codeRange pristine size logicalStart).addressOf index := by
  constructor
  · rintro ⟨hlow, hhigh⟩
    have hindex : (t - logicalStart.toNat).toNat / 4 < size.toNat / 4 := by omega
    refine ⟨⟨(t - logicalStart.toNat).toNat / 4, hindex⟩, ?_⟩
    show t = logicalStart.toNat + 4 * ((t - logicalStart.toNat).toNat / 4 : ℕ)
    omega
  · rintro ⟨index, rfl⟩
    have hindex : index.val < size.toNat / 4 := index.isLt
    have haddress : (codeRange pristine size logicalStart).addressOf index =
      logicalStart.toNat + 4 * index.val := rfl
    constructor <;> omega

theorem Reaches.aligned {t : ℤ} (h : Reaches pristine size logicalStart t) :
    4 ∣ t - logicalStart.toNat := by
  induction h with
  | start => omega
  | step _ _ hsuccessor ih =>
    cases hsuccessor <;> omega

/-- The hypotheses on the code, as one. -/
theorem inLowerHalf (hstart : 4 ∣ logicalStart.toNat)
    (hbound : logicalStart.toNat + size.toNat ≤ 2 ^ 63) :
    (codeRange pristine size logicalStart).InLowerHalf := by
  refine ⟨hstart, ?_⟩
  show logicalStart.toNat + 4 * (size.toNat / 4) ≤ 2 ^ 63
  omega

section Indices
variable {entry index target : Fin (codeRange pristine size logicalStart).count}

/-- What an expanded index leads to. -/
theorem leads_of_expand (h : (codeRange pristine size logicalStart).InLowerHalf)
    {targets : List (Fin (codeRange pristine size logicalStart).count)}
    (hexpand : (codeRange pristine size logicalStart).expand index = some targets) :
    (codeRange pristine size logicalStart).Leads index targets ∧
      ¬ LeavesThroughRegister ((codeRange pristine size logicalStart).word index) ∧
      ((codeRange pristine size logicalStart).visit index = .return ↔
        IsRet ((codeRange pristine size logicalStart).word index)) := by
  have hmeans := visit_means h index
  unfold expand at hexpand
  cases hvisit : (codeRange pristine size logicalStart).visit index with
  | «return» =>
    rw [hvisit] at hmeans hexpand
    have hret : IsRet ((codeRange pristine size logicalStart).word index) := hmeans
    obtain rfl := Option.some.inj hexpand
    exact ⟨leads_nil fun t => hret.not_successor, fun hleaves => hleaves.2.2 hret,
      iff_of_true rfl hret⟩
  | next others =>
    rw [hvisit] at hmeans hexpand
    obtain ⟨hret, hregister, hleads⟩ := hmeans
    obtain rfl := Option.some.inj hexpand
    exact ⟨hleads, hregister, iff_of_false nofun hret⟩
  | unsupported =>
    rw [hvisit] at hexpand
    cases hexpand

theorem reaches_of_index (h : (codeRange pristine size logicalStart).InLowerHalf)
    (hsize : 4 ∣ size.toNat) (hentry : entry.val = 0)
    (hreach : Relation.ReflTransGen (Edge (codeRange pristine size logicalStart).expand) entry
      index) :
    Reaches pristine size logicalStart
      ((codeRange pristine size logicalStart).addressOf index) := by
  induction hreach with
  | refl =>
    have haddress : (codeRange pristine size logicalStart).addressOf entry =
        logicalStart.toNat := by
      show (logicalStart.toNat : ℤ) + 4 * (entry.val : ℕ) = _
      omega
    rw [haddress]
    exact .start
  | tail hreach hedge ih =>
    obtain ⟨targets, hexpand, htarget⟩ := hedge
    refine .step ih ((inCode_iff hsize ih.aligned).mpr ⟨_, rfl⟩) ?_
    rw [← word_codeRange]
    exact ((leads_of_expand h hexpand).1 _).mpr ⟨_, htarget, rfl⟩

/-- Where every index can be expanded, the walk goes wherever control goes. -/
theorem index_of_reaches (h : (codeRange pristine size logicalStart).InLowerHalf)
    (hentry : entry.val = 0)
    (hexpands : ∀ index, Relation.ReflTransGen
      (Edge (codeRange pristine size logicalStart).expand) entry index →
      (codeRange pristine size logicalStart).expand index ≠ none) {t : ℤ}
    (hreach : Reaches pristine size logicalStart t) :
    ∃ index, Relation.ReflTransGen (Edge (codeRange pristine size logicalStart).expand) entry
      index ∧ t = (codeRange pristine size logicalStart).addressOf index := by
  induction hreach with
  | start =>
    refine ⟨entry, .refl, ?_⟩
    show (logicalStart.toNat : ℤ) = logicalStart.toNat + 4 * (entry.val : ℕ)
    omega
  | step _ _ hsuccessor ih =>
    obtain ⟨index, hindex, rfl⟩ := ih
    cases hexpand : (codeRange pristine size logicalStart).expand index with
    | none => exact absurd hexpand (hexpands index hindex)
    | some targets =>
      rw [← word_codeRange] at hsuccessor
      obtain ⟨target, htarget, rfl⟩ := ((leads_of_expand h hexpand).1 _).mp hsuccessor
      exact ⟨target, hindex.tail ⟨targets, hexpand, htarget⟩, rfl⟩

/-- An index that cannot be expanded jumps through a register or leaves the code. -/
theorem leaves_of_stuck (h : (codeRange pristine size logicalStart).InLowerHalf)
    (hsize : 4 ∣ size.toNat)
    (hreach : Reaches pristine size logicalStart
      ((codeRange pristine size logicalStart).addressOf index))
    (hstuck : (codeRange pristine size logicalStart).expand index = none) :
    ∃ t, Reaches pristine size logicalStart t ∧
      (LeavesThroughRegister (wordAt pristine t) ∨ ¬ InCode size logicalStart t) := by
  have hmeans := visit_means h index
  rw [expand_none_iff.mp hstuck] at hmeans
  rcases hmeans with hregister | ⟨t, hsuccessor, hout⟩
  · rw [word_codeRange] at hregister
    exact ⟨_, hreach, Or.inl hregister⟩
  · rw [word_codeRange] at hsuccessor
    have ht : Reaches pristine size logicalStart t :=
      .step hreach ((inCode_iff hsize hreach.aligned).mpr ⟨_, rfl⟩) hsuccessor
    refine ⟨t, ht, Or.inr fun hin => ?_⟩
    obtain ⟨target, htarget⟩ := (inCode_iff hsize ht.aligned).mp hin
    exact hout target htarget

end Indices

/-- Everything control reaches lies in the code, and none of it jumps through a register. -/
def StaysInCode (pristine : Address → Instruction) (size : BitVec 64) (logicalStart : Address) :
    Prop :=
  ∀ t, Reaches pristine size logicalStart t →
    InCode size logicalStart t ∧ ¬ LeavesThroughRegister (wordAt pristine t)

/-- The recorded site of a return. -/
def returnSite (pristine : Address → Instruction) (t : ℤ) : Arm64ReturnPatch where
  address := BitVec.ofInt 64 t
  originalInstruction := wordAt pristine t
  patchedInstruction := 0
  consumers := 0

theorem site_eq (index : Fin (codeRange pristine size logicalStart).count) :
    (codeRange pristine size logicalStart).site index =
      returnSite pristine ((codeRange pristine size logicalStart).addressOf index) := by
  have hpc : (codeRange pristine size logicalStart).pc index =
      BitVec.ofInt 64 ((codeRange pristine size logicalStart).addressOf index) := by
    show logicalStart + BitVec.ofNat 64 (4 * index) =
      BitVec.ofInt 64 (logicalStart.toNat + 4 * index)
    rw [ofInt_add, ofInt_natCast, ofNat_toNat, setWidth_eq]
    exact congrArg _ (ofInt_natCast 64 (4 * index)).symm
  rw [site, hpc, word_codeRange]
  rfl

/-- A walk that ends well has control stay in the code and lists its returns. -/
theorem staysInCode_of_finds (hlower : (codeRange pristine size logicalStart).InLowerHalf)
    (hsize : 4 ∣ size.toNat) {entry : Fin (codeRange pristine size logicalStart).count}
    (hentry : entry.val = 0) {out : List (Fin (codeRange pristine size logicalStart).count)}
    (h : (codeRange pristine size logicalStart).Finds ∅ [entry] (some out)) :
    StaysInCode pristine size logicalStart ∧
      ∀ t, (∃ index ∈ out, (codeRange pristine size logicalStart).addressOf index = t) ↔
        Reaches pristine size logicalStart t ∧ IsRet (wordAt pristine t) := by
  obtain ⟨found, hsearch, hout⟩ := h
  have hreached := fun t => index_of_reaches (t := t) hlower hentry fun index => hsearch.expands
  constructor
  · intro t ht
    refine ⟨?_, ?_⟩
    · obtain ⟨index, -, hindex⟩ := hreached t ht
      exact (inCode_iff hsize ht.aligned).mpr ⟨index, hindex⟩
    · obtain ⟨index, hindex, rfl⟩ := hreached t ht
      obtain ⟨targets, hexpand⟩ := Option.ne_none_iff_exists'.mp (hsearch.expands hindex)
      rw [← word_codeRange]
      exact (leads_of_expand hlower hexpand).2.1
  · intro t
    constructor
    · rintro ⟨index, hindex, rfl⟩
      obtain ⟨hfound, hreturn⟩ := (hout index).mp hindex
      have hreach := hsearch.mem_iff.mp hfound
      obtain ⟨targets, hexpand⟩ := Option.ne_none_iff_exists'.mp (hsearch.expands hreach)
      refine ⟨reaches_of_index hlower hsize hentry hreach, ?_⟩
      rw [← word_codeRange]
      exact (leads_of_expand hlower hexpand).2.2.mp hreturn
    · rintro ⟨ht, hret⟩
      obtain ⟨index, hindex, rfl⟩ := hreached t ht
      obtain ⟨targets, hexpand⟩ := Option.ne_none_iff_exists'.mp (hsearch.expands hindex)
      rw [← word_codeRange] at hret
      exact ⟨index, (hout index).mpr ⟨hsearch.mem_iff.mpr hindex,
        (leads_of_expand hlower hexpand).2.2.mpr hret⟩, rfl⟩

/-- A walk that fails has control leave the code. -/
theorem not_staysInCode_of_finds (hlower : (codeRange pristine size logicalStart).InLowerHalf)
    (hsize : 4 ∣ size.toNat) {entry : Fin (codeRange pristine size logicalStart).count}
    (hentry : entry.val = 0)
    (h : (codeRange pristine size logicalStart).Finds ∅ [entry] none) :
    ¬ StaysInCode pristine size logicalStart := by
  obtain ⟨start, hstart, index, hreach, hstuck⟩ := Search.failed h
  obtain rfl := mem_singleton.mp hstart
  obtain ⟨t, ht, hleaves⟩ := leaves_of_stuck hlower hsize
    (reaches_of_index hlower hsize hentry hreach) hstuck
  intro hstays
  exact hleaves.elim (hstays t ht).2 fun hout => hout (hstays t ht).1

end Correspondence

/-! ## The result -/

theorem mem_uniqueAfter_of_mem {first site : Arm64ReturnPatch} {sites : List Arm64ReturnPatch}
    (hmem : site ∈ first :: sites)
    (hinj : ∀ left ∈ first :: sites, ∀ right ∈ first :: sites, left.address = right.address →
      left = right) : site ∈ uniqueAfter first sites := by
  induction sites generalizing first with
  | nil => exact hmem
  | cons other sites ih =>
    rw [uniqueAfter]
    split
    next heq =>
      obtain rfl := hinj first mem_cons_self other
        (mem_cons_of_mem _ mem_cons_self) heq
      refine ih ?_ fun left hleft right hright => hinj left (mem_cons_of_mem _ hleft) right
        (mem_cons_of_mem _ hright)
      rcases mem_cons.mp hmem with rfl | hmem
      · exact mem_cons_self
      · exact hmem
    next =>
      rcases mem_cons.mp hmem with rfl | hmem
      · exact mem_cons_self
      · exact mem_cons_of_mem _ (ih hmem fun left hleft right hright =>
          hinj left (mem_cons_of_mem _ hleft) right (mem_cons_of_mem _ hright))

/-- Dropping repeated addresses drops no site where an address has one site. -/
theorem mem_uniqueSites_iff {site : Arm64ReturnPatch} {sites : List Arm64ReturnPatch}
    (hinj : ∀ left ∈ sites, ∀ right ∈ sites, left.address = right.address → left = right) :
    site ∈ uniqueSites sites ↔ site ∈ sites := by
  refine ⟨mem_uniqueSites, fun hmem => ?_⟩
  cases sites with
  | nil => exact hmem
  | cons first sites => exact mem_uniqueAfter_of_mem hmem hinj

section Result
variable {pristine : Address → Instruction} {size : BitVec 64} {logicalStart : Address}

/-- The list made from the walk's indices. -/
def sitesOf (range : CodeRange) (returns : List (Fin range.count)) : List Arm64ReturnPatch :=
  uniqueSites ((returns.map range.site).insertionSort siteLe)

theorem sitesOf_strict (range : CodeRange) (returns : List (Fin range.count)) :
    (sitesOf range returns).Pairwise fun left right => left.address < right.address :=
  uniqueSites_strict (pairwise_insertionSort siteLe _)

theorem mem_sitesOf {returns : List (Fin (codeRange pristine size logicalStart).count)}
    {site : Arm64ReturnPatch} :
    site ∈ sitesOf (codeRange pristine size logicalStart) returns ↔
      ∃ t, (∃ index ∈ returns, (codeRange pristine size logicalStart).addressOf index = t) ∧
        site = returnSite pristine t := by
  have hmem : ∀ site, site ∈ (returns.map (codeRange pristine size logicalStart).site).insertionSort
      siteLe ↔ ∃ index ∈ returns, (codeRange pristine size logicalStart).site index = site := by
    intro site
    rw [mem_insertionSort, mem_map]
  rw [sitesOf, mem_uniqueSites_iff, hmem]
  · constructor
    · rintro ⟨index, hindex, rfl⟩
      exact ⟨_, ⟨index, hindex, rfl⟩, site_eq index⟩
    · rintro ⟨t, ⟨index, hindex, rfl⟩, rfl⟩
      exact ⟨index, hindex, site_eq index⟩
  · intro left hleft right hright heq
    obtain ⟨first, -, rfl⟩ := (hmem left).mp hleft
    obtain ⟨second, -, rfl⟩ := (hmem right).mp hright
    -- A site is a function of its address.
    have hsite : ∀ index, (codeRange pristine size logicalStart).site index =
        ⟨(codeRange pristine size logicalStart).pc index,
          pristine ((codeRange pristine size logicalStart).pc index), 0, 0⟩ := fun _ => rfl
    rw [hsite first, hsite second]
    rw [hsite first, hsite second] at heq
    exact congrArg (fun address => Arm64ReturnPatch.mk address (pristine address) 0 0) heq

/-- The code, where the function looks at it: what the walk makes of it is the answer. -/
theorem collect_eq (hstart : 4 ∣ logicalStart.toNat) (hsize : 4 ∣ size.toNat)
    (hbound : logicalStart.toNat + size.toNat ≤ 2 ^ 63)
    {entry : Fin (codeRange pristine size logicalStart).count} (hentry : entry.val = 0) :
    ∃ result, (codeRange pristine size logicalStart).Finds ∅ [entry] result ∧
      collectReachableArm64Returns pristine size logicalStart =
        match result with
        | none => none
        | some returns =>
          if sitesOf (codeRange pristine size logicalStart) returns = [] then none
          else some (sitesOf (codeRange pristine size logicalStart) returns) := by
  have hcount : entry.val < size.toNat / 4 := entry.isLt
  have hsmall : ¬ size < 4#64 := by
    rw [lt_def]
    show ¬ size.toNat < 4
    omega
  have hroom : ¬ logicalStart > BitVec.allOnes 64 - size := by
    rw [gt_iff_lt, lt_def, toNat_sub, toNat_allOnes]
    omega
  have hargs : ¬ (logicalStart &&& 3 ≠ 0 ∨ size &&& 3 ≠ 0 ∨
      logicalStart > BitVec.allOnes 64 - size) := by
    rintro (hne | hne | hgt)
    · exact hne (and_three hstart)
    · exact hne (and_three hsize)
    · exact hroom hgt
  have hzero : entry = ⟨0, Nat.lt_of_le_of_lt (Nat.zero_le _) entry.isLt⟩ := Fin.ext hentry
  refine ⟨(codeRange pristine size logicalStart).walk
    (3 * (codeRange pristine size logicalStart).count + 2) ∅ [entry] [], ?_, ?_⟩
  · rw [← Finset.coe_empty]
    refine walk_finds ?_ fun index => ?_
    · rw [walkMeasure, Finset.card_empty, Nat.sub_zero, length_singleton]
      omega
    · exact iff_of_false not_mem_nil fun hmem => Finset.notMem_empty _ hmem.1
  · rw [collectReachableArm64Returns, dif_neg hsmall, if_neg hargs, hzero]
    dsimp only
    generalize hwalk : walk _ _ _ _ _ = result
    have hwalk : (codeRange pristine size logicalStart).walk
        (3 * (codeRange pristine size logicalStart).count + 2) ∅ [⟨0, _⟩] [] = result := hwalk
    rw [hwalk]
    cases result with
    | none => rfl
    | some returns => rfl

/-- On every aligned range of code in the lower half of the address space, the search ends; it gives
a list exactly when control stays in the code and can return, and the list is then the strictly
increasing one of the returns control reaches, each with its word. -/
theorem collectReachableArm64Returns_exact (pristine : Address → Instruction) (size : BitVec 64)
    (logicalStart : Address) (hstart : 4 ∣ logicalStart.toNat) (hsize : 4 ∣ size.toNat)
    (hbound : logicalStart.toNat + size.toNat ≤ 2 ^ 63) :
    (∀ entry : Fin (codeRange pristine size logicalStart).count, entry.val = 0 →
      ∃ found, Search (codeRange pristine size logicalStart).expand ∅ [entry] found) ∧
    ((∃ sites, collectReachableArm64Returns pristine size logicalStart = some sites) ↔
      StaysInCode pristine size logicalStart ∧
        ∃ t, Reaches pristine size logicalStart t ∧ IsRet (wordAt pristine t)) ∧
    ∀ sites, collectReachableArm64Returns pristine size logicalStart = some sites →
      (sites.Pairwise fun left right => left.address < right.address) ∧
      ∀ site, site ∈ sites ↔ ∃ t, (Reaches pristine size logicalStart t ∧
        IsRet (wordAt pristine t)) ∧ site = returnSite pristine t := by
  have hlower : (codeRange pristine size logicalStart).InLowerHalf := inLowerHalf hstart hbound
  by_cases hentry : 0 < (codeRange pristine size logicalStart).count
  · have hzero : (⟨0, hentry⟩ : Fin (codeRange pristine size logicalStart).count).val = 0 := rfl
    obtain ⟨result, hfinds, hcollect⟩ := collect_eq hstart hsize hbound hzero
    rw [hcollect]
    cases result with
    | none =>
      refine ⟨fun entry hfirst => ?_, ?_, nofun⟩
      · obtain rfl : entry = ⟨0, hentry⟩ := Fin.ext hfirst
        exact ⟨none, hfinds⟩
      · exact iff_of_false (fun h => nomatch h) fun h =>
          not_staysInCode_of_finds hlower hsize rfl hfinds h.1
    | some returns =>
      obtain ⟨hstays, hreturns⟩ := staysInCode_of_finds hlower hsize rfl hfinds
      have hmem : ∀ site, site ∈ sitesOf (codeRange pristine size logicalStart) returns ↔
          ∃ t, (Reaches pristine size logicalStart t ∧ IsRet (wordAt pristine t)) ∧
            site = returnSite pristine t := by
        intro site
        rw [mem_sitesOf]
        exact exists_congr fun t => and_congr_left fun _ => hreturns t
      refine ⟨fun entry hfirst => ?_, ?_, fun sites hsites => ?_⟩
      · obtain rfl : entry = ⟨0, hentry⟩ := Fin.ext hfirst
        obtain ⟨found, hsearch, -⟩ := hfinds
        exact ⟨some found, hsearch⟩
      · dsimp only
        split
        next hnil =>
          refine iff_of_false (fun h => nomatch h) fun ⟨_, t, ht⟩ => ?_
          have hsite := (hmem (returnSite pristine t)).mpr ⟨t, ht, rfl⟩
          rw [hnil] at hsite
          exact not_mem_nil hsite
        next hne =>
          obtain ⟨site, hsite⟩ := exists_mem_of_ne_nil _ hne
          obtain ⟨t, ht, -⟩ := (hmem site).mp hsite
          exact iff_of_true ⟨_, rfl⟩ ⟨hstays, t, ht⟩
      · dsimp only at hsites
        split at hsites
        · cases hsites
        · obtain rfl := Option.some.inj hsites
          exact ⟨sitesOf_strict _ _, hmem⟩
  · have hempty : size.toNat / 4 = 0 := Nat.eq_zero_of_not_pos hentry
    have hnone : collectReachableArm64Returns pristine size logicalStart = none := by
      rw [collectReachableArm64Returns, dif_pos]
      rw [lt_def]
      show size.toNat < 4
      omega
    rw [hnone]
    refine ⟨fun entry => absurd entry.pos hentry, iff_of_false (fun h => nomatch h) fun h => ?_,
      nofun⟩
    obtain ⟨hlow, hhigh⟩ := (h.1 _ .start).1
    omega

theorem collectReachableArm64Returns_exact_shared :
    (∃ sites, collectReachableArm64Returns sharedBody 32 0x1000 = some sites) ∧
      StaysInCode sharedBody 32 0x1000 ∧
      ∃ t, Reaches sharedBody 32 0x1000 t ∧ IsRet (wordAt sharedBody t) := by
  have hsome : (collectReachableArm64Returns sharedBody 32 0x1000).isSome = true := by
    decide +kernel
  have hsites := Option.isSome_iff_exists.mp hsome
  obtain ⟨-, hiff, -⟩ := collectReachableArm64Returns_exact sharedBody 32 0x1000 (by decide)
    (by decide) (by decide)
  exact ⟨hsites, hiff.mp hsites⟩

end Result

end DartPlant
