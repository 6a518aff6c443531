import DartPlant.Analyzer.ReportedSites
import DartPlant.Analyzer.ValueFlow

/-! # Completeness of the control-flow graph

The analyzer looks for the target of a direct branch in operand 0.  That is where B, B.cond and BC
have it, but CBZ and CBNZ have it in operand 1 and TBZ and TBNZ in operand 2, so their targets are
lost: the blocks behind them may stay unreached, and such a branch is never reported as leaving the
buffer.  `graphComplete_iff` says exactly when nothing of that shows.
-/

namespace DartPlant.Analyzer
open Propagation Cuts

/-! ## What a complete graph says -/

/-- The target lies in the buffer. -/
def Inside (address : BitVec 64) (size : Nat) (target : BitVec 64) : Prop :=
  (target - address).toNat < size

/-- The sites of the reachable instructions, and no others. -/
structure ReportsExactly (address : BitVec 64) (size : Nat) (insns : List Insn)
    (facts : StructuralFacts) : Prop where
  returns : ∀ site, site ∈ facts.returnSites ↔
    ∃ i insn, Reachable insns i ∧ insns[i]? = some insn ∧ insn.id = .ret ∧ site = insn.address
  calls : ∀ edge, edge ∈ facts.directCalls ↔
    ∃ i insn, Reachable insns i ∧ insns[i]? = some insn ∧ insn.id = .bl ∧
      ∃ target, insn.immAt 0 = some target ∧ edge = ⟨insn.address, target⟩
  indirectCalls : ∀ site, site ∈ facts.indirectCallSites ↔
    ∃ i insn, Reachable insns i ∧ insns[i]? = some insn ∧ insn.id = .blr ∧ site = insn.address
  indirectBranches : ∀ site, site ∈ facts.indirectBranchSites ↔
    ∃ i insn, Reachable insns i ∧ insns[i]? = some insn ∧ insn.id = .br ∧ site = insn.address
  leaving : ∀ edge, edge ∈ facts.externalBranches ↔
    ∃ i insn, Reachable insns i ∧ insns[i]? = some insn ∧
      ∃ target, insn.branchTarget = some target ∧ ¬ Inside address size target ∧
        edge = ⟨insn.address, target⟩

structure GraphComplete (address : BitVec 64) (size : Nat) (insns : List Insn) : Prop where
  covered : ∀ i, Reachable insns i → ∃ block, InBlock insns block i ∧ BlockReached insns block
  reported : (collectStructuralFacts (decode insns) address size).structuralEvidenceTruncated =
      true ∨
    ReportsExactly address size insns (collectStructuralFacts (decode insns) address size)
  ends : ∃ fuel, (analyzeArm64Entry insns address size fuel).isSome = true

/-- Nothing is behind a CBZ, CBNZ, TBZ or TBNZ only; and unless the reachable instructions ask for
more than the tables hold, these branches stay inside the buffer, and the others go outside by the
reckoning of `CollectStructuralFacts` only when they do. -/
structure BranchesFollowed (address : BitVec 64) (size : Nat) (insns : List Insn) : Prop where
  followed : ∀ i, Reachable insns i → Followed insns i
  tables : Overflows (entriesOf (Reachable insns) address size insns) ∨
    ∀ i insn, Reachable insns i → insns[i]? = some insn →
      (insn.ComparesAndBranches →
        ∀ target, insn.branchTarget = some target → Inside address size target) ∧
      ∀ target, insn.operandTarget = some target → Inside address size target →
        leavesRange address size target = false

/-! ## Targets -/

section Targets
variable {insn : Insn}

/-- Operand 0 of a CBZ, CBNZ, TBZ or TBNZ is the register. -/
theorem Insn.OperandOrder.operandTarget_none (h : insn.OperandOrder)
    (hcompares : insn.ComparesAndBranches) : insn.operandTarget = none := by
  obtain ⟨reg, hreg⟩ := h.compared hcompares
  unfold Insn.operandTarget
  split
  · unfold Insn.immAt
    rw [hreg]
  · rfl

/-- The other branches have their target in operand 0. -/
theorem operandTarget_eq (hcompares : ¬ insn.ComparesAndBranches) :
    insn.operandTarget = insn.branchTarget := by
  unfold Insn.ComparesAndBranches at hcompares
  unfold Insn.operandTarget Insn.branchTarget Insn.targetOperand
  cases hid : insn.id <;>
    simp_all [Insn.isDirectBranch, Insn.isConditionalBranch]

theorem Insn.OperandOrder.branchTarget_of (h : insn.OperandOrder) {target : BitVec 64}
    (htarget : insn.operandTarget = some target) : insn.branchTarget = some target := by
  by_cases hcompares : insn.ComparesAndBranches
  · rw [h.operandTarget_none hcompares] at htarget
    cases htarget
  · rw [← operandTarget_eq hcompares]
    exact htarget

end Targets

section Range
variable {address : BitVec 64} {size : Nat} {insns : List Insn}

/-- What leaves the buffer also does so by the reckoning of `CollectStructuralFacts`. -/
theorem leavesRange_of_not_inside {target : BitVec 64} (h : ¬ Inside address size target) :
    leavesRange address size target = true := by
  unfold Inside at h
  unfold leavesRange bufferEnd
  rw [BitVec.toNat_sub] at h
  rw [Bool.or_eq_true, decide_eq_true_eq, decide_eq_true_eq, BitVec.lt_def]
  have hlt := target.isLt
  have hlt' := address.isLt
  by_cases hbefore : target.toNat < address.toNat
  · exact .inl hbefore
  · refine .inr ?_
    split <;> omega

/-- What is followed is reachable. -/
theorem Decodes.reachable_of_followed (h : Decodes address size insns) {i : Nat}
    (hfollowed : Followed insns i) : Reachable insns i := by
  refine ⟨hfollowed.1, hfollowed.2.lift id ?_⟩
  rintro j k ⟨insn, next, hinsn, hnext, htarget | hfalls⟩
  · exact ⟨insn, next, hinsn, hnext,
      .inl ((h.order insn (List.mem_of_getElem? hinsn)).branchTarget_of htarget)⟩
  · exact ⟨insn, next, hinsn, hnext, .inr hfalls⟩

/-- Without CBZ, CBNZ, TBZ and TBNZ everything reachable is followed. -/
theorem followed_of_reachable (h : ∀ insn ∈ insns, ¬ insn.ComparesAndBranches) {i : Nat}
    (hreachable : Reachable insns i) : Followed insns i := by
  refine ⟨hreachable.1, hreachable.2.lift id ?_⟩
  rintro j k ⟨insn, next, hinsn, hnext, htarget | hfalls⟩
  · exact ⟨insn, next, hinsn, hnext,
      .inl ((operandTarget_eq (h insn (List.mem_of_getElem? hinsn))).trans htarget)⟩
  · exact ⟨insn, next, hinsn, hnext, .inr hfalls⟩

end Range

/-! ## The claim's condition -/

section Complete
variable {address : BitVec 64} {size : Nat} {insns : List Insn}

/-- Every instruction lies in a block. -/
theorem Decodes.exists_block (h : Decodes address size insns) {i : Nat} (hi : i < insns.length) :
    ∃ block, InBlock insns block i := h.partition.exists_block hi

/-- The blocks cover what is followed. -/
theorem Decodes.covered_iff (h : Decodes address size insns) {i : Nat} (hi : i < insns.length) :
    (∃ block, InBlock insns block i ∧ BlockReached insns block) ↔ Followed insns i := by
  constructor
  · rintro ⟨block, hin, hreached⟩
    exact (h.blockReached_iff hin).mp hreached
  · intro hfollowed
    obtain ⟨block, hin⟩ := h.exists_block hi
    exact ⟨block, hin, (h.blockReached_iff hin).mpr hfollowed⟩

/-- A table that has not overflowed holds all entries of its kind. -/
theorem mem_table {α : Type} {kind : StructuralEntry → Option α} {table : List α}
    {entries : List StructuralEntry} (entry : α → StructuralEntry)
    (htable : table = (entries.filterMap kind).take kMaxStructuralSites)
    (hroom : (entries.filterMap kind).length ≤ kMaxStructuralSites)
    (hkind : ∀ candidate site, kind candidate = some site ↔ candidate = entry site) (site : α) :
    site ∈ table ↔ entry site ∈ entries := by
  rw [htable, List.take_of_length_le hroom, List.mem_filterMap]
  simp only [hkind, exists_eq_right]

/-- Without an overflow, the tables are the entries of the instructions. -/
theorem tables_of_not_overflows {P : Nat → Prop} {facts : StructuralFacts}
    (hfacts : facts = (entriesOf P address size insns).foldl recordEntry {})
    (hroom : ¬ Overflows (entriesOf P address size insns)) :
    (∀ edge, edge ∈ facts.directCalls ↔ .directCall edge ∈ entriesOf P address size insns) ∧
    (∀ site, site ∈ facts.returnSites ↔ .returnSite site ∈ entriesOf P address size insns) ∧
    (∀ site, site ∈ facts.indirectCallSites ↔
      .indirectCall site ∈ entriesOf P address size insns) ∧
    (∀ site, site ∈ facts.indirectBranchSites ↔
      .indirectBranch site ∈ entriesOf P address size insns) ∧
    (∀ edge, edge ∈ facts.externalBranches ↔
      .externalBranch edge ∈ entriesOf P address size insns) := by
  subst hfacts
  simp only [Overflows, not_or, Nat.not_lt] at hroom
  obtain ⟨hdirect, hreturn, hcall, hbranch, hexternal, -, -⟩ := hroom
  refine ⟨?_, ?_, ?_, ?_, ?_⟩
  · refine mem_table _ (foldl_directCalls _) hdirect fun candidate edge => ?_
    cases candidate <;> simp [StructuralEntry.directCall?]
  · refine mem_table _ (foldl_returnSites _) hreturn fun candidate site => ?_
    cases candidate <;> simp [StructuralEntry.returnSite?]
  · refine mem_table _ (foldl_indirectCallSites _) hcall fun candidate site => ?_
    cases candidate <;> simp [StructuralEntry.indirectCall?]
  · refine mem_table _ (foldl_indirectBranchSites _) hbranch fun candidate site => ?_
    cases candidate <;> simp [StructuralEntry.indirectBranch?]
  · refine mem_table _ (foldl_externalBranches _) hexternal fun candidate edge => ?_
    cases candidate <;> simp [StructuralEntry.externalBranch?]

/-- The entries of a set of instructions, kind by kind. -/
theorem directCall_mem_entriesOf {P : Nat → Prop} {edge : DirectControlFlowEdge} :
    .directCall edge ∈ entriesOf P address size insns ↔
      ∃ i insn, P i ∧ insns[i]? = some insn ∧ insn.id = .bl ∧
        ∃ target, insn.immAt 0 = some target ∧ edge = ⟨insn.address, target⟩ := by
  rw [mem_entriesOf_site (by trivial)]
  simp [mem_transferEntry, mem_branchEntry]

theorem returnSite_mem_entriesOf {P : Nat → Prop} {site : BitVec 64} :
    .returnSite site ∈ entriesOf P address size insns ↔
      ∃ i insn, P i ∧ insns[i]? = some insn ∧ insn.id = .ret ∧ site = insn.address := by
  rw [mem_entriesOf_site (by trivial)]
  simp [mem_transferEntry, mem_branchEntry]

theorem indirectCall_mem_entriesOf {P : Nat → Prop} {site : BitVec 64} :
    .indirectCall site ∈ entriesOf P address size insns ↔
      ∃ i insn, P i ∧ insns[i]? = some insn ∧ insn.id = .blr ∧ site = insn.address := by
  rw [mem_entriesOf_site (by trivial)]
  simp [mem_transferEntry, mem_branchEntry]

theorem indirectBranch_mem_entriesOf {P : Nat → Prop} {site : BitVec 64} :
    .indirectBranch site ∈ entriesOf P address size insns ↔
      ∃ i insn, P i ∧ insns[i]? = some insn ∧ insn.id = .br ∧ site = insn.address := by
  rw [mem_entriesOf_site (by trivial)]
  simp [mem_transferEntry, mem_branchEntry]

theorem externalBranch_mem_entriesOf {P : Nat → Prop} {edge : DirectControlFlowEdge} :
    .externalBranch edge ∈ entriesOf P address size insns ↔
      ∃ i insn, P i ∧ insns[i]? = some insn ∧ ∃ target, insn.operandTarget = some target ∧
        leavesRange address size target = true ∧ edge = ⟨insn.address, target⟩ := by
  rw [mem_entriesOf_site (by trivial)]
  simp [mem_transferEntry, mem_branchEntry]

/-- When what is reachable is followed and fits the tables, only the branches that leave the buffer
can be reported wrongly. -/
theorem Decodes.reportsExactly_iff (h : Decodes address size insns)
    (hfollowed : ∀ i, Reachable insns i → Followed insns i)
    (hroom : ¬ Overflows (entriesOf (Reachable insns) address size insns)) :
    ReportsExactly address size insns (collectStructuralFacts (decode insns) address size) ↔
      ∀ i insn, Reachable insns i → insns[i]? = some insn →
        (insn.ComparesAndBranches →
          ∀ target, insn.branchTarget = some target → Inside address size target) ∧
        ∀ target, insn.operandTarget = some target → Inside address size target →
          leavesRange address size target = false := by
  have hsame : Followed insns = Reachable insns :=
    funext fun i => propext ⟨h.reachable_of_followed, hfollowed i⟩
  have hfacts := h.collectStructuralFacts_eq
  rw [hsame] at hfacts
  obtain ⟨hdirect, hreturn, hcall, hbranch, hexternal⟩ := tables_of_not_overflows hfacts hroom
  constructor
  · intro hreports i insn hi hinsn
    have horder := h.order insn (List.mem_of_getElem? hinsn)
    refine ⟨fun hcompares target htarget => ?_, fun target htarget hinside => ?_⟩
    · by_contra hleaves
      have hmem := (hreports.leaving ⟨insn.address, target⟩).mpr
        ⟨i, insn, hi, hinsn, target, htarget, hleaves, rfl⟩
      rw [hexternal, externalBranch_mem_entriesOf] at hmem
      obtain ⟨j, source, -, hj, target', htarget', -, heq⟩ := hmem
      -- The edge could come from no other instruction.
      cases h.address_inj hj hinsn (congrArg DirectControlFlowEdge.site heq).symm
      cases Option.some.inj (hj.symm.trans hinsn)
      rw [horder.operandTarget_none hcompares] at htarget'
      cases htarget'
    · rw [← Bool.not_eq_true]
      intro hleaves
      have hmem := (hexternal ⟨insn.address, target⟩).mpr (externalBranch_mem_entriesOf.mpr
        ⟨i, insn, hi, hinsn, target, htarget, hleaves, rfl⟩)
      rw [hreports.leaving] at hmem
      obtain ⟨j, source, -, hj, target', -, hleaves', heq⟩ := hmem
      cases congrArg DirectControlFlowEdge.target heq
      exact hleaves' hinside
  · intro hbranches
    refine ⟨fun site => ?_, fun edge => ?_, fun site => ?_, fun site => ?_, fun edge => ?_⟩
    · rw [hreturn, returnSite_mem_entriesOf]
    · rw [hdirect, directCall_mem_entriesOf]
    · rw [hcall, indirectCall_mem_entriesOf]
    · rw [hbranch, indirectBranch_mem_entriesOf]
    · rw [hexternal, externalBranch_mem_entriesOf]
      refine exists_congr fun i => exists_congr fun insn => and_congr_right fun hi =>
        and_congr_right fun hinsn => exists_congr fun target => ?_
      obtain ⟨hcompares, hinside⟩ := hbranches i insn hi hinsn
      have horder := h.order insn (List.mem_of_getElem? hinsn)
      constructor
      · rintro ⟨htarget, hleaves, rfl⟩
        refine ⟨horder.branchTarget_of htarget, fun hin => ?_, rfl⟩
        rw [hinside target htarget hin] at hleaves
        cases hleaves
      · rintro ⟨htarget, hleaves, rfl⟩
        have hother : ¬ insn.ComparesAndBranches := fun hc => hleaves (hcompares hc target htarget)
        exact ⟨(operandTarget_eq hother).trans htarget, leavesRange_of_not_inside hleaves, rfl⟩

/-- The graph of the analyzer is complete exactly when the branches that it follows show everything
that is reachable. -/
theorem graphComplete_iff (address : BitVec 64) (size : Nat) (insns : List Insn)
    (h : Decodes address size insns) :
    GraphComplete address size insns ↔ BranchesFollowed address size insns := by
  have hcovered : (∀ i, Reachable insns i →
      ∃ block, InBlock insns block i ∧ BlockReached insns block) ↔
        ∀ i, Reachable insns i → Followed insns i :=
    forall_congr' fun i => imp_congr_right fun hi => h.covered_iff hi.1
  have htables : (∀ i, Reachable insns i → Followed insns i) →
      ((collectStructuralFacts (decode insns) address size).structuralEvidenceTruncated = true ↔
        Overflows (entriesOf (Reachable insns) address size insns)) := by
    intro hfollowed
    have hsame : Followed insns = Reachable insns :=
      funext fun i => propext ⟨h.reachable_of_followed, hfollowed i⟩
    rw [h.collectStructuralFacts_eq, hsame, truncated_iff]
  constructor
  · intro hgraph
    have hfollowed := hcovered.mp hgraph.covered
    refine ⟨hfollowed, ?_⟩
    by_cases hroom : Overflows (entriesOf (Reachable insns) address size insns)
    · exact .inl hroom
    · obtain htruncated | hreports := hgraph.reported
      · exact absurd ((htables hfollowed).mp htruncated) hroom
      · exact .inr ((h.reportsExactly_iff hfollowed hroom).mp hreports)
  · intro hbranches
    refine ⟨hcovered.mpr hbranches.followed, ?_, analyzeArm64Entry_ends h⟩
    by_cases hroom : Overflows (entriesOf (Reachable insns) address size insns)
    · exact .inl ((htables hbranches.followed).mpr hroom)
    · exact .inr ((h.reportsExactly_iff hbranches.followed hroom).mpr
        (hbranches.tables.resolve_left hroom))

end Complete

/-! ## Two buffers -/

section Buffers

/-- `branch; ret; ret` at 0x1000, where the branch may go to the second RET. -/
def returnsAfter (id : InsnId) (operands : List Operand) (cc : ConditionCode) : List Insn :=
  [⟨id, 0x1000#64, operands, cc, false, false, true, [], []⟩,
    ⟨.ret, 0x1004#64, [], .invalid, false, false, true, [], []⟩,
    ⟨.ret, 0x1008#64, [], .invalid, false, false, true, [], []⟩]

variable {id : InsnId} {operands : List Operand} {cc : ConditionCode}

theorem returnsAfter_decodes
    (horder : (⟨id, 0x1000#64, operands, cc, false, false, true, [], []⟩ : Insn).OperandOrder)
    (htarget : ∀ target, (⟨id, 0x1000#64, operands, cc, false, false, true, [], []⟩ :
      Insn).branchTarget = some target → target = 0x1008#64) :
    Decodes 0x1000#64 12 (returnsAfter id operands cc) where
  length := rfl
  fits := by decide
  addresses := by
    intro i insn hinsn
    match i, hinsn with
    | 0, hinsn => cases hinsn; rfl
    | 1, hinsn => cases hinsn; rfl
    | 2, hinsn => cases hinsn; rfl
  order := by
    intro insn hinsn
    simp only [returnsAfter, List.mem_cons, List.not_mem_nil, or_false] at hinsn
    obtain rfl | rfl | rfl := hinsn
    · exact horder
    · exact ⟨nofun, fun hcompares => absurd hcompares (by decide), nofun⟩
    · exact ⟨nofun, fun hcompares => absurd hcompares (by decide), nofun⟩
  aligned := by
    intro insn hinsn target hgoes
    simp only [returnsAfter, List.mem_cons, List.not_mem_nil, or_false] at hinsn
    obtain rfl | rfl | rfl := hinsn
    · rw [htarget target hgoes]
      change 4 ∣ (0x1008#64 - 0x1000#64).toNat
      decide
    · cases hgoes
    · cases hgoes

end Buffers

/-- `b.eq #8; ret; ret`: operand 0 is the target. -/
theorem graphComplete_iff_conditionalBranch :
    GraphComplete 0x1000#64 12 (returnsAfter .b [.imm 0x1008#64] (.other 0)) := by
  have hdecodes : Decodes 0x1000#64 12 (returnsAfter .b [.imm 0x1008#64] (.other 0)) :=
    returnsAfter_decodes ⟨fun _ => rfl, fun hcompares => absurd hcompares (by decide), nofun⟩
      fun target htarget => (Option.some.inj htarget).symm
  have hother : ∀ insn ∈ returnsAfter .b [.imm 0x1008#64] (.other 0),
      ¬ insn.ComparesAndBranches := by decide
  refine (graphComplete_iff _ _ _ hdecodes).mpr
    ⟨fun i hi => followed_of_reachable hother hi, .inr fun i insn _ hinsn => ?_⟩
  have hmem := List.mem_of_getElem? hinsn
  refine ⟨fun hcompares => absurd hcompares (hother insn hmem), fun target htarget _ => ?_⟩
  simp only [returnsAfter, List.mem_cons, List.not_mem_nil, or_false] at hmem
  obtain rfl | rfl | rfl := hmem
  · cases htarget
    decide
  · cases htarget
  · cases htarget

/-- `cbz x0, #8; ret; ret`: the second RET is reachable, but its block is not reached. -/
theorem compareAndBranch_not_covered :
    ¬ ∀ (address : BitVec 64) (size : Nat) (insns : List Insn),
      Decodes address size insns → GraphComplete address size insns := by
  intro hall
  have hdecodes : Decodes 0x1000#64 12
      (returnsAfter .cbz [.reg (.x 0), .imm 0x1008#64] .invalid) :=
    returnsAfter_decodes ⟨fun _ => rfl, fun _ => ⟨.x 0, rfl⟩, nofun⟩
      fun target htarget => (Option.some.inj htarget).symm
  have hreachable : Reachable (returnsAfter .cbz [.reg (.x 0), .imm 0x1008#64] .invalid) 2 :=
    ⟨by decide, .single ⟨_, _, rfl, rfl, .inl rfl⟩⟩
  obtain ⟨block, hin, hreached⟩ := (hall _ _ _ hdecodes).covered 2 hreachable
  -- Nothing that is followed is past the first RET.
  have hbelow : ∀ i, Relation.ReflTransGen
      (Successor Insn.operandTarget (returnsAfter .cbz [.reg (.x 0), .imm 0x1008#64] .invalid))
      0 i → i ≤ 1 := by
    intro i hpath
    induction hpath with
    | refl => exact Nat.zero_le 1
    | @tail j k _ hedge ih =>
      obtain ⟨insn, next, hinsn, -, hwhy⟩ := hedge
      match j, hinsn with
      | 0, hinsn =>
        cases hinsn
        obtain htarget | ⟨-, rfl⟩ := hwhy
        · cases htarget
        · exact Nat.le_refl 1
      | 1, hinsn =>
        cases hinsn
        obtain htarget | ⟨hfalls, -⟩ := hwhy
        · cases htarget
        · exact absurd rfl hfalls.1
      | j + 2, _ => omega
  exact absurd (hbelow 2 ((hdecodes.blockReached_iff hin).mp hreached).2) (by decide)

end DartPlant.Analyzer
