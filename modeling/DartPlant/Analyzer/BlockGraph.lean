import DartPlant.Analyzer.ControlFlow
import DartPlant.Lib.Cuts

/-! # The blocks that the first one reaches

`Reachable` is the architecture's successor relation, and `Followed` is the same without the targets
that are not in operand 0.  A block starts where a branch with its target in operand 0 goes to or
after a terminator, so inside of a block control only falls through, and the blocks that the first
one reaches hold exactly the instructions that are followed (`blockReached_iff`).
-/

namespace DartPlant.Analyzer
open Propagation Cuts List

/-! ## Successors -/

/-- One instruction after another, when branches go to their `target`. -/
def Successor (target : Insn → Option (BitVec 64)) (insns : List Insn) (i j : Nat) : Prop :=
  ∃ insn next, insns[i]? = some insn ∧ insns[j]? = some next ∧
    (target insn = some next.address ∨ insn.FallsThrough ∧ j = i + 1)

/-- The instructions that the first one reaches when branches go to their `target`. -/
def ReachableBy (target : Insn → Option (BitVec 64)) (insns : List Insn) (i : Nat) : Prop :=
  i < insns.length ∧ Relation.ReflTransGen (Successor target insns) 0 i

/-- What the architecture reaches. -/
abbrev Reachable : List Insn → Nat → Prop := ReachableBy Insn.branchTarget

/-- What is reached when no CBZ, CBNZ, TBZ or TBNZ is taken. -/
abbrev Followed : List Insn → Nat → Prop := ReachableBy Insn.operandTarget

/-- An instruction that starts a block. -/
def Starts (insns : List Insn) (i : Nat) : Prop :=
  ∃ insn, insns[i]? = some insn ∧ (i = 0 ∨
    (∃ j last, i = j + 1 ∧ insns[j]? = some last ∧ last.isTerminator = true) ∨
    ∃ source ∈ insns, source.operandTarget = some insn.address)

section Instructions
variable {insn : Insn}

theorem operandTarget_isTerminator {target : BitVec 64} (h : insn.operandTarget = some target) :
    insn.isTerminator = true := by
  unfold Insn.operandTarget at h
  split at h
  next hdirect =>
    simp only [Insn.isDirectBranch, Bool.or_eq_true] at hdirect
    simp only [Insn.isTerminator, Bool.or_eq_true]
    obtain hb | hcond := hdirect
    · exact .inl (.inr hb)
    · exact .inr hcond
  next => cases h

/-- What is no terminator falls through, and so does a conditional branch. -/
theorem fallsThrough_iff :
    insn.FallsThrough ↔ insn.isConditionalBranch = true ∨ insn.isTerminator = false := by
  constructor
  · rintro ⟨hret, hbr, hbrk, hb⟩
    by_cases hcond : insn.isConditionalBranch = true
    · exact .inl hcond
    · refine .inr ?_
      have hb' : insn.id ≠ .b := fun heq => hcond (hb heq)
      simp only [Insn.isTerminator, Bool.or_eq_false_iff, beq_eq_false_iff_ne]
      exact ⟨⟨⟨⟨hret, hbr⟩, hbrk⟩, hb'⟩, Bool.eq_false_iff.mpr hcond⟩
  · rintro (hcond | hnot)
    · have hid := hcond
      simp only [Insn.isConditionalBranch, Bool.or_eq_true, Bool.and_eq_true, beq_iff_eq,
        bne_iff_ne] at hid
      refine ⟨fun heq => ?_, fun heq => ?_, fun heq => ?_, fun _ => hcond⟩ <;>
        simp only [heq, reduceCtorEq, false_and, or_self] at hid
    · simp only [Insn.isTerminator, Bool.or_eq_false_iff, beq_eq_false_iff_ne] at hnot
      obtain ⟨⟨⟨⟨hret, hbr⟩, hbrk⟩, hb⟩, -⟩ := hnot
      exact ⟨hret, hbr, hbrk, fun heq => absurd heq hb⟩

end Instructions

/-! ## Block starts -/

section Blocks
variable {address : BitVec 64} {size : Nat} {insns : List Insn}

theorem mem_startAddresses {start : BitVec 64} :
    start ∈ startAddresses insns ↔
      (∃ first, insns[0]? = some first ∧ first.address = start) ∨
      ∃ i insn, insns[i]? = some insn ∧
        ((insn.isTerminator = true ∧ ∃ next, insns[i + 1]? = some next ∧ next.address = start) ∨
          insn.operandTarget = some start) := by
  have hzip : ∀ (insn : Insn) (i : Nat), (insn, i) ∈ insns.zipIdx ↔ insns[i]? = some insn :=
    fun _ _ => mk_mem_zipIdx_iff_getElem?
  have hafter : ∀ i insn, start ∈ startsAfter insns i insn ↔
      (insn.isTerminator = true ∧ ∃ next, insns[i + 1]? = some next ∧ next.address = start) ∨
        insn.operandTarget = some start := by
    intro i insn
    unfold startsAfter
    rw [mem_append, Option.mem_toList]
    refine or_congr ?_ Iff.rfl
    cases insns[i + 1]? with
    | none => simp
    | some next =>
      cases insn.isTerminator with
      | true => simp [eq_comm]
      | false => simp
  unfold startAddresses
  rw [mem_append, mem_flatMap, Option.mem_toList, List.head?_eq_getElem?]
  refine or_congr ?_ ?_
  · rw [Option.map_eq_some_iff]
  · constructor
    · rintro ⟨⟨insn, i⟩, hmem, hstart⟩
      exact ⟨i, insn, (hzip insn i).mp hmem, (hafter i insn).mp hstart⟩
    · rintro ⟨i, insn, hinsn, hstart⟩
      exact ⟨(insn, i), (hzip insn i).mpr hinsn, (hafter i insn).mpr hstart⟩

variable (h : Decodes address size insns)
include h

theorem Decodes.address_inj {i j : Nat} {insn next : Insn}
    (hi : insns[i]? = some insn) (hj : insns[j]? = some next)
    (heq : insn.address = next.address) : i = j := by
  have hli := (List.getElem?_eq_some_iff.mp hi).1
  have hlj := (List.getElem?_eq_some_iff.mp hj).1
  have hlength := h.length
  have hfits := h.fits
  rw [h.addresses i insn hi, h.addresses j next hj] at heq
  have hnat := congrArg BitVec.toNat ((BitVec.add_right_inj _).mp heq)
  rw [BitVec.toNat_ofNat, BitVec.toNat_ofNat, Nat.mod_eq_of_lt (by omega),
    Nat.mod_eq_of_lt (by omega)] at hnat
  omega

theorem Decodes.findIdx?_eq {i : Nat} {start : BitVec 64} :
    insns.findIdx? (·.address == start) = some i ↔
      ∃ insn, insns[i]? = some insn ∧ insn.address = start := by
  rw [List.findIdx?_eq_some_iff_getElem]
  constructor
  · rintro ⟨hi, hstart, -⟩
    exact ⟨insns[i], List.getElem?_eq_getElem hi, beq_iff_eq.mp hstart⟩
  · rintro ⟨insn, hinsn, hstart⟩
    obtain ⟨hi, hget⟩ := List.getElem?_eq_some_iff.mp hinsn
    refine ⟨hi, beq_iff_eq.mpr (hget ▸ hstart), fun j hj => ?_⟩
    rw [Bool.not_eq_true, beq_eq_false_iff_ne]
    intro heq
    have hj' : insns[j]? = some insns[j] := List.getElem?_eq_getElem (Nat.lt_trans hj hi)
    have hsame := h.address_inj hj' hinsn (heq.trans hstart.symm)
    omega

/-- The blocks start where control can come in. -/
theorem Decodes.mem_blockStarts {i : Nat} : i ∈ blockStarts insns ↔ Starts insns i := by
  unfold blockStarts
  rw [mem_insertionSort, mem_filterMap]
  constructor
  · rintro ⟨start, hstart, hfound⟩
    obtain ⟨insn, hinsn, rfl⟩ := h.findIdx?_eq.mp hfound
    rw [mem_dedup, mem_insertionSort, mem_startAddresses] at hstart
    refine ⟨insn, hinsn, ?_⟩
    obtain ⟨first, hfirst, haddress⟩ | ⟨j, source, hsource, ⟨hterm, next, hnext, haddress⟩ | htarget⟩
      := hstart
    · exact .inl (h.address_inj hinsn hfirst haddress.symm)
    · exact .inr (.inl ⟨j, source, h.address_inj hinsn hnext haddress.symm, hsource, hterm⟩)
    · exact .inr (.inr ⟨source, mem_of_getElem? hsource, htarget⟩)
  · rintro ⟨insn, hinsn, hwhy⟩
    refine ⟨insn.address, ?_, h.findIdx?_eq.mpr ⟨insn, hinsn, rfl⟩⟩
    rw [mem_dedup, mem_insertionSort, mem_startAddresses]
    obtain rfl | ⟨j, last, rfl, hlast, hterm⟩ | ⟨source, hsource, htarget⟩ := hwhy
    · exact .inl ⟨insn, hinsn, rfl⟩
    · exact .inr ⟨j, last, hlast, .inl ⟨hterm, insn, hinsn, rfl⟩⟩
    · obtain ⟨j, hj⟩ := mem_iff_getElem?.mp hsource
      exact .inr ⟨j, source, hj, .inr htarget⟩

theorem Decodes.partition : Partition (blockStarts insns) insns.length where
  sorted := by
    have hnodup : (blockStarts insns).Nodup := by
      unfold blockStarts
      refine (perm_insertionSort _ _).nodup_iff.mpr ?_
      refine (nodup_dedup _).filterMap fun start start' i hi hi' => ?_
      obtain ⟨insn, hinsn, rfl⟩ := h.findIdx?_eq.mp hi
      obtain ⟨insn', hinsn', rfl⟩ := h.findIdx?_eq.mp hi'
      rw [Option.some.inj (hinsn.symm.trans hinsn')]
    have hsorted : (blockStarts insns).Pairwise (· ≤ ·) := pairwise_insertionSort _ _
    exact (hsorted.and hnodup).imp fun hle => Nat.lt_of_le_of_ne hle.1 hle.2
  zero := by
    intro hpos
    refine h.mem_blockStarts.mpr ⟨insns[0], List.getElem?_eq_getElem hpos, .inl rfl⟩
  below := by
    intro i hi
    obtain ⟨insn, hinsn, -⟩ := h.mem_blockStarts.mp hi
    exact (List.getElem?_eq_some_iff.mp hinsn).1

/-! ## The edges between blocks -/

/-- An instruction lies in a block. -/
def InBlock (insns : List Insn) (block i : Nat) : Prop :=
  block < (blockStarts insns).length ∧ (decode insns).blockBegin block ≤ i ∧
    i < (decode insns).blockEnd block

theorem Decodes.blockBegin_lt {block : Nat} (hblock : block < (blockStarts insns).length) :
    (decode insns).blockBegin block < (decode insns).blockEnd block :=
  h.partition.start_lt_start (Nat.lt_succ_self block) hblock

theorem Decodes.blockEnd_le (block : Nat) : (decode insns).blockEnd block ≤ insns.length :=
  h.partition.start_le (block + 1)

theorem Decodes.mem_successors {block next : Nat} (hblock : block < (blockStarts insns).length) :
    next ∈ (decode insns).successors block ↔
      ∃ last, insns[(decode insns).blockEnd block - 1]? = some last ∧
        ((∃ target, last.operandTarget = some target.address ∧ next < (blockStarts insns).length ∧
            insns[(decode insns).blockBegin next]? = some target) ∨
          last.FallsThrough ∧ next = block + 1 ∧ next < (blockStarts insns).length) := by
  have hlt := h.blockBegin_lt hblock
  have hat : ∀ target : BitVec 64, next ∈ (decode insns).blocksAt target ↔
      next < (blockStarts insns).length ∧
        ∃ insn, insns[(decode insns).blockBegin next]? = some insn ∧ insn.address = target := by
    intro target
    unfold Decoded.blocksAt
    rw [mem_filter, mem_range, Option.any_eq_true]
    simp only [beq_iff_eq]
    rfl
  unfold Decoded.successors
  rw [show (decode insns).insns = insns from rfl]
  cases hlast : insns[(decode insns).blockEnd block - 1]? with
  | none => simp only [not_mem_nil, reduceCtorEq, false_and, exists_false]
  | some last =>
    simp only [Option.some.injEq, exists_eq_left', if_pos hlt, mem_append]
    refine or_congr ?_ ?_
    · cases last.operandTarget with
      | none => simp only [not_mem_nil, reduceCtorEq, false_and, exists_false]
      | some target =>
        simp only [hat, Option.some.injEq]
        constructor
        · rintro ⟨hnext, insn, hinsn, heq⟩
          exact ⟨insn, heq.symm, hnext, hinsn⟩
        · rintro ⟨insn, heq, hnext, hinsn⟩
          exact ⟨hnext, insn, hinsn, heq.symm⟩
    · rw [fallsThrough_iff]
      by_cases hfalls : (last.isConditionalBranch = true ∨ last.isTerminator = false) ∧
          block + 1 < (decode insns).starts.length
      · rw [if_pos hfalls, mem_singleton]
        exact ⟨fun heq => ⟨hfalls.1, heq, heq ▸ hfalls.2⟩, fun hnext => hnext.2.1⟩
      · rw [if_neg hfalls]
        refine iff_of_false not_mem_nil ?_
        rintro ⟨hwhy, rfl, hnext⟩
        exact hfalls ⟨hwhy, hnext⟩

/-- Inside of a block control falls through. -/
theorem Decodes.falls_in_block {block i : Nat}
    (hin : InBlock insns block i) (hnext : i + 1 < (decode insns).blockEnd block) :
    Successor Insn.operandTarget insns i (i + 1) := by
  have hend := h.blockEnd_le block
  have hi : insns[i]? = some insns[i] := List.getElem?_eq_getElem (by omega)
  have hi' : insns[i + 1]? = some insns[i + 1] := List.getElem?_eq_getElem (by omega)
  refine ⟨insns[i], insns[i + 1], hi, hi', .inr ⟨fallsThrough_iff.mpr (.inr ?_), rfl⟩⟩
  rw [← Bool.not_eq_true]
  intro hterm
  have hcut : i + 1 ∈ blockStarts insns :=
    h.mem_blockStarts.mpr ⟨insns[i + 1], hi', .inr (.inl ⟨i, insns[i], rfl, hi, hterm⟩)⟩
  have hstart := h.partition.eq_start hin.1 hcut ⟨Nat.le_succ_of_le hin.2.1, hnext⟩
  have hle : (decode insns).blockBegin block ≤ i := hin.2.1
  have hbegin : (decode insns).blockBegin block = i + 1 := hstart.symm
  omega

/-- An instruction from which control may go elsewhere ends its block. -/
theorem Decodes.last_of_terminator {block i : Nat} {insn : Insn}
    (hin : InBlock insns block i) (hinsn : insns[i]? = some insn)
    (hterm : insn.isTerminator = true) : i = (decode insns).blockEnd block - 1 := by
  have hend := h.blockEnd_le block
  by_contra hne
  have hnext : i + 1 < (decode insns).blockEnd block := by
    have := hin.2.2
    omega
  have hi' : insns[i + 1]? = some insns[i + 1] := List.getElem?_eq_getElem (by omega)
  have hcut : i + 1 ∈ blockStarts insns :=
    h.mem_blockStarts.mpr ⟨insns[i + 1], hi', .inr (.inl ⟨i, insn, rfl, hinsn, hterm⟩)⟩
  have hbegin : i + 1 = (decode insns).blockBegin block :=
    h.partition.eq_start hin.1 hcut ⟨Nat.le_succ_of_le hin.2.1, hnext⟩
  have hle := hin.2.1
  omega

/-- A block is followed from its start to each of its instructions. -/
theorem Decodes.followed_in_block {block i : Nat}
    (hin : InBlock insns block i) (hstart : Followed insns ((decode insns).blockBegin block)) :
    Followed insns i := by
  obtain ⟨hblock, hle, hlt⟩ := hin
  induction i, hle using Nat.le_induction with
  | base => exact hstart
  | succ i hle ih =>
    have hin : InBlock insns block i := ⟨hblock, hle, Nat.lt_of_succ_lt hlt⟩
    have hend := h.blockEnd_le block
    exact ⟨by omega, (ih hin.2.2).2.tail (h.falls_in_block hin hlt)⟩

/-! ## The blocks that are reached -/

/-- What the first block reaches in the graph of `Decode`. -/
def BlockReached (insns : List Insn) (block : Nat) : Prop :=
  Relation.ReflTransGen (fun b c => c ∈ (decode insns).successors b) 0 block

theorem Decodes.nonempty_starts (hpos : 0 < insns.length) : 0 < (blockStarts insns).length :=
  length_pos_of_mem (h.partition.zero hpos)

theorem Decodes.blockBegin_zero : (decode insns).blockBegin 0 = 0 := h.partition.start_zero

/-- A block that is reached is one, and is followed to its start. -/
theorem Decodes.followed_of_reached (hpos : 0 < insns.length)
    {block : Nat} (hreached : BlockReached insns block) :
    block < (blockStarts insns).length ∧ Followed insns ((decode insns).blockBegin block) := by
  induction hreached with
  | refl => exact ⟨h.nonempty_starts hpos, by rw [h.blockBegin_zero]; exact ⟨hpos, .refl⟩⟩
  | @tail block next _ hedge ih =>
    obtain ⟨hblock, hstart⟩ := ih
    have hlt := h.blockBegin_lt hblock
    have hend := h.blockEnd_le block
    have hlast : InBlock insns block ((decode insns).blockEnd block - 1) :=
      ⟨hblock, by omega, by omega⟩
    have hfollowed := (h.followed_in_block hlast hstart).2
    obtain ⟨last, hinsn, ⟨target, htarget, hnext, hat⟩ | ⟨hfalls, rfl, hnext⟩⟩ :=
      (h.mem_successors hblock).mp hedge
    · have hbelow := (List.getElem?_eq_some_iff.mp hat).1
      exact ⟨hnext, hbelow, hfollowed.tail ⟨last, target, hinsn, hat, .inl htarget⟩⟩
    · have hsame : (decode insns).blockBegin (block + 1) = (decode insns).blockEnd block := rfl
      have hbelow := h.partition.below _ (start_mem (n := insns.length) hnext)
      have hat : insns[(decode insns).blockBegin (block + 1)]? =
          some insns[(decode insns).blockBegin (block + 1)] := List.getElem?_eq_getElem hbelow
      refine ⟨hnext, hbelow, hfollowed.tail ⟨last, _, hinsn, hat, .inr ⟨hfalls, ?_⟩⟩⟩
      omega

/-- The block of an instruction that is followed is reached. -/
theorem Decodes.reached_of_followed {block i : Nat}
    (hin : InBlock insns block i) (hfollowed : Followed insns i) : BlockReached insns block := by
  obtain ⟨-, hpath⟩ := hfollowed
  induction hpath generalizing block with
  | refl =>
    have hend := h.blockEnd_le block
    have hzero : InBlock insns 0 0 := by
      have hpos : 0 < insns.length := by
        have := hin.2.2
        omega
      have hlt := h.blockBegin_lt (h.nonempty_starts hpos)
      exact ⟨h.nonempty_starts hpos, Nat.le_of_eq h.blockBegin_zero, by
        rw [h.blockBegin_zero] at hlt
        exact hlt⟩
    rw [h.partition.block_unique hin.1 hzero.1 hin.2 hzero.2]
    exact .refl
  | @tail i j _ hedge ih =>
    obtain ⟨insn, next, hinsn, hnext, hwhy⟩ := hedge
    have hi : i < insns.length := (List.getElem?_eq_some_iff.mp hinsn).1
    obtain ⟨before, hbefore⟩ := h.partition.exists_block hi
    have hinBefore : InBlock insns before i := hbefore
    have hreached := ih hinBefore
    obtain htarget | ⟨hfalls, rfl⟩ := hwhy
    · -- The target of a branch starts its block.
      have hlast := h.last_of_terminator hinBefore hinsn (operandTarget_isTerminator htarget)
      have hcut : j ∈ blockStarts insns :=
        h.mem_blockStarts.mpr ⟨next, hnext, .inr (.inr ⟨insn, mem_of_getElem? hinsn, htarget⟩)⟩
      have hbegin : j = (decode insns).blockBegin block :=
        h.partition.eq_start hin.1 hcut hin.2
      refine hreached.tail ((h.mem_successors hinBefore.1).mpr
        ⟨insn, hlast ▸ hinsn, .inl ⟨next, htarget, hin.1, hbegin ▸ hnext⟩⟩)
    · by_cases hinside : i + 1 < (decode insns).blockEnd before
      · have hinNext : InBlock insns before (i + 1) :=
          ⟨hinBefore.1, Nat.le_succ_of_le hinBefore.2.1, hinside⟩
        rw [h.partition.block_unique hin.1 hinNext.1 hin.2 hinNext.2]
        exact hreached
      · -- Control falls into the next block.
        have hlast : i + 1 = (decode insns).blockEnd before := by
          have := hinBefore.2.2
          omega
        have hmore : before + 1 < (blockStarts insns).length := by
          by_contra hge
          have hend : (decode insns).blockEnd before = insns.length :=
            start_of_le (Nat.not_lt.mp hge)
          have := (List.getElem?_eq_some_iff.mp hnext).1
          omega
        have hinNext : InBlock insns (before + 1) (i + 1) := by
          refine ⟨hmore, Nat.le_of_eq hlast.symm, ?_⟩
          rw [hlast]
          exact h.blockBegin_lt hmore
        rw [h.partition.block_unique hin.1 hinNext.1 hin.2 hinNext.2]
        refine hreached.tail ((h.mem_successors hinBefore.1).mpr
          ⟨insn, ?_, .inr ⟨hfalls, rfl, hmore⟩⟩)
        rw [← hlast, Nat.add_sub_cancel]
        exact hinsn

/-- The block of an instruction is reached exactly when the instruction is followed. -/
theorem Decodes.blockReached_iff {block i : Nat}
    (hin : InBlock insns block i) : BlockReached insns block ↔ Followed insns i := by
  constructor
  · intro hreached
    have hend := h.blockEnd_le block
    have hpos : 0 < insns.length := by
      have := hin.2.2
      omega
    exact h.followed_in_block hin (h.followed_of_reached hpos hreached).2
  · exact h.reached_of_followed hin

/-! ## The search -/

/-- The blocks have edges to blocks only. -/
theorem Decodes.successors_lt (block next : Nat)
    (hnext : next ∈ (decode insns).successors block) : next < (blockStarts insns).length := by
  by_cases hblock : block < (blockStarts insns).length
  · obtain ⟨last, -, ⟨target, -, hlt, -⟩ | ⟨-, -, hlt⟩⟩ := (h.mem_successors hblock).mp hnext
    · exact hlt
    · exact hlt
  · have hbegin : (decode insns).blockBegin block = insns.length :=
      start_of_le (Nat.not_lt.mp hblock)
    have hempty : ¬ (decode insns).blockBegin block < (decode insns).blockEnd block := by
      have := h.blockEnd_le block
      omega
    unfold Decoded.successors at hnext
    split at hnext
    next => cases hnext
    next =>
      rw [if_neg hempty] at hnext
      cases hnext

/-- The search of `CollectStructuralFacts` ends, and has found the blocks that are reached. -/
theorem Decodes.reachableBlocks_spec (hpos : 0 < insns.length) :
    ∃ reached, reachableBlocks (decode insns) = some reached ∧
      ∀ block, (reached.states block).isSome = true ↔ BlockReached insns block := by
  have hdescends : (structuralFlow (decode insns)).Descends (fun _ => 0) 0
      (blockStarts insns).length :=
    ⟨fun _ => Nat.le_refl 0, fun _ _ => Nat.le_refl 0, h.successors_lt⟩
  have hfuel : Propagation.Flow.potential (fun _ => 0) 0 (blockStarts insns).length
      (Propagation.Flow.begin 0 () () : Work Unit Unit) < (blockStarts insns).length + 1 := by
    have hmem : 0 ∈ Finset.range (blockStarts insns).length :=
      Finset.mem_range.mpr (h.nonempty_starts hpos)
    unfold Propagation.Flow.potential
    rw [← Finset.add_sum_erase _ _ hmem]
    have hrest : ∑ node ∈ (Finset.range (blockStarts insns).length).erase 0,
        ((Propagation.Flow.begin 0 () () : Work Unit Unit).states node).elim 1 (fun _ => 0) =
        (blockStarts insns).length - 1 := by
      have hone : ∀ node ∈ (Finset.range (blockStarts insns).length).erase 0,
          ((Propagation.Flow.begin 0 () () : Work Unit Unit).states node).elim 1 (fun _ => 0) =
            1 := by
        intro node hnode
        simp only [Propagation.Flow.begin, Function.update_of_ne (Finset.ne_of_mem_erase hnode),
          Option.elim_none]
      rw [Finset.sum_const_nat hone, Finset.card_erase_of_mem hmem, Finset.card_range, Nat.mul_one]
    rw [hrest]
    have hlength := h.nonempty_starts hpos
    simp only [Propagation.Flow.begin, Function.update_self, Option.elim_some,
      length_singleton]
    omega
  obtain ⟨reached, hrun⟩ := Option.isSome_iff_exists.mp (hdescends.run_isSome hfuel)
  exact ⟨reached, hrun, fun block => Propagation.Flow.reached_iff hrun block⟩

end Blocks

end DartPlant.Analyzer
