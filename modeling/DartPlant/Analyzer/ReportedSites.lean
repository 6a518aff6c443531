import DartPlant.Analyzer.BlockGraph
import Mathlib.Order.Lattice.Nat

/-! # The sites that are reported

`CollectStructuralFacts` goes through the reached blocks, which are the instructions that are
followed, in order (`collectStructuralFacts_eq`).  Each of its tables is the beginning of the list
of all entries of its kind, and the evidence is truncated exactly when some table was too small or
the destination of an ADR was no general register (`truncated_iff`).
-/

namespace DartPlant.Analyzer
open Propagation Cuts StructuralEntry List

/-! ## Entries and tables -/

namespace StructuralEntry

def directCall? : StructuralEntry → Option DirectControlFlowEdge
  | .directCall edge => some edge
  | _ => none

def returnSite? : StructuralEntry → Option (BitVec 64)
  | .returnSite site => some site
  | _ => none

def indirectCall? : StructuralEntry → Option (BitVec 64)
  | .indirectCall site => some site
  | _ => none

def indirectBranch? : StructuralEntry → Option (BitVec 64)
  | .indirectBranch site => some site
  | _ => none

def externalBranch? : StructuralEntry → Option DirectControlFlowEdge
  | .externalBranch edge => some edge
  | _ => none

def materialization? : StructuralEntry → Option AddressMaterialization
  | .materialization entry => some entry
  | _ => none

/-- The entry is about a call, a return or a branch. -/
def IsSite : StructuralEntry → Prop
  | .materialization _ | .badDestination => False
  | _ => True

end StructuralEntry

/-- There are more entries of a kind than a table holds, or one that no table takes. -/
def Overflows (entries : List StructuralEntry) : Prop :=
  kMaxStructuralSites < (entries.filterMap directCall?).length ∨
  kMaxStructuralSites < (entries.filterMap returnSite?).length ∨
  kMaxStructuralSites < (entries.filterMap indirectCall?).length ∨
  kMaxStructuralSites < (entries.filterMap indirectBranch?).length ∨
  kMaxStructuralSites < (entries.filterMap externalBranch?).length ∨
  kMaxStructuralSites < (entries.filterMap materialization?).length ∨
  .badDestination ∈ entries

section Tables
variable {α : Type}

theorem addSite_take (all : List α) (site : α) :
    (addSite (all.take kMaxStructuralSites) site).1 =
      (all ++ [site]).take kMaxStructuralSites := by
  unfold addSite
  by_cases hroom : all.length < kMaxStructuralSites
  · have hshort : (all.take kMaxStructuralSites).length < kMaxStructuralSites := by
      rw [length_take]
      omega
    rw [if_pos hshort, take_of_length_le (Nat.le_of_lt hroom), take_of_length_le]
    rw [length_append, length_singleton]
    omega
  · have hfull : ¬ (all.take kMaxStructuralSites).length < kMaxStructuralSites := by
      rw [length_take]
      omega
    rw [if_neg hfull, take_append_of_le_length (Nat.not_lt.mp hroom)]

theorem addSite_added (all : List α) (site : α) :
    (!(addSite (all.take kMaxStructuralSites) site).2) = true ↔
      kMaxStructuralSites < (all ++ [site]).length := by
  unfold addSite
  rw [length_take, length_append, length_singleton]
  split
  next h => exact iff_of_false Bool.false_ne_true (by omega)
  next h => exact iff_of_true rfl (by omega)

/-- A table is the beginning of the list of all entries of its kind. -/
theorem foldl_table (table : StructuralFacts → List α) (kind : StructuralEntry → Option α)
    (hinit : table {} = [])
    (hstep : ∀ facts entry, table (recordEntry facts entry) =
      match kind entry with
      | some site => (addSite (table facts) site).1
      | none => table facts) (entries : List StructuralEntry) :
    table (entries.foldl recordEntry {}) =
      (entries.filterMap kind).take kMaxStructuralSites := by
  induction entries using List.reverseRecOn with
  | nil => exact hinit
  | append_singleton entries entry ih =>
    rw [foldl_append, foldl_cons, foldl_nil, hstep, ih, filterMap_append]
    cases hkind : kind entry with
    | none => simp only [filterMap_cons, hkind, filterMap_nil, append_nil]
    | some site => simp only [filterMap_cons, hkind, filterMap_nil, addSite_take]

variable (entries : List StructuralEntry)

theorem foldl_directCalls : (entries.foldl recordEntry {}).directCalls =
    (entries.filterMap directCall?).take kMaxStructuralSites :=
  foldl_table _ _ rfl (fun _ entry => by cases entry <;> rfl) entries

theorem foldl_returnSites : (entries.foldl recordEntry {}).returnSites =
    (entries.filterMap returnSite?).take kMaxStructuralSites :=
  foldl_table _ _ rfl (fun _ entry => by cases entry <;> rfl) entries

theorem foldl_indirectCallSites : (entries.foldl recordEntry {}).indirectCallSites =
    (entries.filterMap indirectCall?).take kMaxStructuralSites :=
  foldl_table _ _ rfl (fun _ entry => by cases entry <;> rfl) entries

theorem foldl_indirectBranchSites : (entries.foldl recordEntry {}).indirectBranchSites =
    (entries.filterMap indirectBranch?).take kMaxStructuralSites :=
  foldl_table _ _ rfl (fun _ entry => by cases entry <;> rfl) entries

theorem foldl_externalBranches : (entries.foldl recordEntry {}).externalBranches =
    (entries.filterMap externalBranch?).take kMaxStructuralSites :=
  foldl_table _ _ rfl (fun _ entry => by cases entry <;> rfl) entries

theorem foldl_materializations : (entries.foldl recordEntry {}).addressMaterializations =
    (entries.filterMap materialization?).take kMaxStructuralSites :=
  foldl_table _ _ rfl (fun _ entry => by cases entry <;> rfl) entries

/-- There is no room for another entry. -/
def Rejects (entries : List StructuralEntry) : StructuralEntry → Prop
  | .directCall _ => kMaxStructuralSites ≤ (entries.filterMap directCall?).length
  | .returnSite _ => kMaxStructuralSites ≤ (entries.filterMap returnSite?).length
  | .indirectCall _ =>
    kMaxStructuralSites ≤ (entries.filterMap indirectCall?).length
  | .indirectBranch _ =>
    kMaxStructuralSites ≤ (entries.filterMap indirectBranch?).length
  | .externalBranch _ =>
    kMaxStructuralSites ≤ (entries.filterMap externalBranch?).length
  | .materialization _ =>
    kMaxStructuralSites ≤ (entries.filterMap materialization?).length
  | .badDestination => True

theorem overflows_concat (entry : StructuralEntry) :
    Overflows (entries ++ [entry]) ↔ Overflows entries ∨ Rejects entries entry := by
  have hmore : ∀ n, (kMaxStructuralSites < n + 1 ↔
      kMaxStructuralSites < n ∨ kMaxStructuralSites ≤ n) := by
    intro n
    omega
  cases entry <;>
    simp only [Overflows, Rejects, filterMap_append, filterMap_cons, filterMap_nil,
      directCall?, returnSite?, indirectCall?,
      indirectBranch?, externalBranch?,
      materialization?, append_nil, length_append, length_cons,
      length_nil, Nat.zero_add, hmore, mem_append, mem_cons, not_mem_nil,
      reduceCtorEq, or_false, or_true] <;>
    tauto

/-- The evidence is truncated when there is an entry that is not recorded. -/
theorem truncated_iff :
    (entries.foldl recordEntry {}).structuralEvidenceTruncated = true ↔ Overflows entries := by
  have hadd : ∀ {β : Type} (all : List β) (site : β),
      ((!(addSite (all.take kMaxStructuralSites) site).2) = true ↔
        kMaxStructuralSites ≤ all.length) := by
    intro β all site
    rw [addSite_added, length_append, length_singleton, Nat.lt_succ_iff]
  induction entries using List.reverseRecOn with
  | nil => simp [Overflows, kMaxStructuralSites]
  | append_singleton entries entry ih =>
    rw [foldl_append, foldl_cons, foldl_nil, overflows_concat]
    refine Iff.trans ?_ (or_congr_left ih)
    cases entry with
    | directCall edge =>
      simp only [recordEntry, Bool.or_eq_true, foldl_directCalls, hadd, Rejects]
    | returnSite site =>
      simp only [recordEntry, Bool.or_eq_true, foldl_returnSites, hadd, Rejects]
    | indirectCall site =>
      simp only [recordEntry, Bool.or_eq_true, foldl_indirectCallSites, hadd, Rejects]
    | indirectBranch site =>
      simp only [recordEntry, Bool.or_eq_true, foldl_indirectBranchSites, hadd, Rejects]
    | externalBranch edge =>
      simp only [recordEntry, Bool.or_eq_true, foldl_externalBranches, hadd, Rejects]
    | materialization entry =>
      simp only [recordEntry, Bool.or_eq_true, foldl_materializations, hadd, Rejects]
    | badDestination => simp only [recordEntry, Rejects, or_true]

end Tables

/-! ## The entries of the instructions -/

/-- Where the run of instructions after an instruction ends: at the next one that starts a block, or
at the end of the buffer. -/
noncomputable def runEnd (insns : List Insn) (i : Nat) : Nat :=
  sInf {j | i < j ∧ (j = insns.length ∨ Starts insns j)}

open Classical in
/-- What the instructions of a set ask to have recorded, in order. -/
noncomputable def entriesOf (P : Nat → Prop) (address : BitVec 64) (size : Nat)
    (insns : List Insn) : List StructuralEntry :=
  (List.range insns.length).flatMap fun i =>
    if P i then structuralEntries address size insns (runEnd insns i) i else []

section Entries
variable {address : BitVec 64} {size : Nat} {insns : List Insn}

theorem mem_entriesOf {P : Nat → Prop} {entry : StructuralEntry} :
    entry ∈ entriesOf P address size insns ↔ ∃ i insn, P i ∧ insns[i]? = some insn ∧
      entry ∈ transferEntry insn ++ branchEntry address size insn ++
        addressEntry insns (runEnd insns i) i insn := by
  unfold entriesOf
  rw [mem_flatMap]
  constructor
  · rintro ⟨i, -, hentry⟩
    split at hentry
    next hi =>
      unfold structuralEntries at hentry
      split at hentry
      next => cases hentry
      next insn hinsn => exact ⟨i, insn, hi, hinsn, hentry⟩
    next => cases hentry
  · rintro ⟨i, insn, hi, hinsn, hentry⟩
    refine ⟨i, mem_range.mpr (List.getElem?_eq_some_iff.mp hinsn).1, ?_⟩
    unfold structuralEntries
    rw [if_pos hi, hinsn]
    exact hentry

/-- A block is a run. -/
theorem Decodes.runEnd_eq (h : Decodes address size insns) {block i : Nat}
    (hin : InBlock insns block i) : runEnd insns i = (decode insns).blockEnd block := by
  obtain ⟨hblock, hle, hlt⟩ := hin
  refine IsLeast.csInf_eq ⟨⟨hlt, ?_⟩, fun j hj => ?_⟩
  · by_cases hmore : block + 1 < (blockStarts insns).length
    · exact .inr (h.mem_blockStarts.mp (start_mem hmore))
    · exact .inl (start_of_le (Nat.not_lt.mp hmore))
  · obtain ⟨hij, rfl | hstarts⟩ := hj
    · exact h.blockEnd_le block
    · by_contra hbefore
      have hbegin := h.partition.eq_start hblock (h.mem_blockStarts.mpr hstarts)
        ⟨Nat.le_trans hle (Nat.le_of_lt hij), Nat.not_le.mp hbefore⟩
      have hsame : (decode insns).blockBegin block = j := hbegin.symm
      omega

/-- `CollectStructuralFacts` records what the instructions that are followed ask for. -/
theorem Decodes.collectStructuralFacts_eq (h : Decodes address size insns) :
    collectStructuralFacts (decode insns) address size =
      (entriesOf (Followed insns) address size insns).foldl recordEntry {} := by
  unfold collectStructuralFacts
  by_cases hpos : 0 < insns.length
  · have hstarts : (decode insns).starts ≠ [] :=
      ne_nil_of_length_pos (h.nonempty_starts hpos)
    obtain ⟨reached, hreached, hblocks⟩ := h.reachableBlocks_spec hpos
    rw [if_neg hstarts, hreached]
    refine congrArg (List.foldl recordEntry {}) ?_
    unfold entriesOf
    rw [← h.partition.flatMap_blocks, flatMap_assoc]
    refine flatMap_congr fun block hblock => ?_
    have hlength : block < (blockStarts insns).length := mem_range.mp hblock
    have hin : ∀ i ∈ List.range' ((decode insns).blockBegin block)
        ((decode insns).blockEnd block - (decode insns).blockBegin block),
        InBlock insns block i := by
      intro i hi
      rw [mem_range'_1] at hi
      exact ⟨hlength, hi.1, by omega⟩
    change (if (reached.states block).isSome = true then blockEntries address size (decode insns)
      block else []) = (List.range' ((decode insns).blockBegin block)
        ((decode insns).blockEnd block - (decode insns).blockBegin block)).flatMap _
    by_cases hmark : (reached.states block).isSome = true
    · rw [if_pos hmark]
      refine flatMap_congr fun i hi => ?_
      rw [if_pos ((h.blockReached_iff (hin i hi)).mp ((hblocks block).mp hmark)),
        h.runEnd_eq (hin i hi)]
      rfl
    · rw [if_neg hmark]
      refine (flatMap_eq_nil_iff.mpr fun i hi => ?_).symm
      rw [if_neg fun hfollowed =>
        hmark ((hblocks block).mpr ((h.blockReached_iff (hin i hi)).mpr hfollowed))]
  · have hnil : insns = [] := length_eq_zero_iff.mp (Nat.eq_zero_of_not_pos hpos)
    subst hnil
    rfl

/-! ## Sites -/

/-- An address instruction asks for address materializations only. -/
theorem mem_addressEntry {blockEnd i : Nat} {insn : Insn} {entry : StructuralEntry}
    (h : entry ∈ addressEntry insns blockEnd i insn) :
    (∃ materialization, entry = .materialization materialization) ∨ entry = .badDestination := by
  have hcomplete : ∀ register page distances,
      entry ∈ completeAddress insns blockEnd i insn register page distances →
        ∃ materialization, entry = .materialization materialization := by
    intro register page distances
    induction distances with
    | nil => exact fun hmem => absurd hmem not_mem_nil
    | cons distance distances ih =>
      intro hmem
      unfold completeAddress at hmem
      split at hmem
      next => cases hmem
      next candidate _ =>
        split at hmem
        next => cases hmem
        next =>
          split at hmem
          next =>
            split at hmem
            next => exact ⟨_, mem_singleton.mp hmem⟩
            next => cases hmem
          next =>
            split at hmem
            next => cases hmem
            next => exact ih hmem
  unfold addressEntry at h
  split at h
  next register immediate _ _ =>
    split at h
    next =>
      split at h
      next => exact .inl ⟨_, mem_singleton.mp h⟩
      next => exact .inr (mem_singleton.mp h)
    next =>
      split at h
      next => exact .inl (hcomplete _ _ _ h)
      next => cases h
  next => cases h

theorem mem_branchEntry {insn : Insn} {entry : StructuralEntry} :
    entry ∈ branchEntry address size insn ↔ ∃ target, insn.operandTarget = some target ∧
      leavesRange address size target = true ∧ entry = .externalBranch ⟨insn.address, target⟩ := by
  unfold branchEntry
  cases insn.operandTarget with
  | none => simp only [not_mem_nil, reduceCtorEq, false_and, exists_false]
  | some target =>
    simp only [Option.some.injEq, exists_eq_left']
    split
    next hleaves => simp only [mem_singleton, hleaves, true_and]
    next hleaves => simp only [not_mem_nil, hleaves, Bool.false_eq_true, false_and]

theorem mem_transferEntry {insn : Insn} {entry : StructuralEntry} :
    entry ∈ transferEntry insn ↔
      (insn.id = .bl ∧
        ∃ target, insn.immAt 0 = some target ∧ entry = .directCall ⟨insn.address, target⟩) ∨
      (insn.id = .ret ∧ entry = .returnSite insn.address) ∨
      (insn.id = .blr ∧ entry = .indirectCall insn.address) ∨
      (insn.id = .br ∧ entry = .indirectBranch insn.address) := by
  unfold transferEntry
  by_cases hbl : insn.id = .bl
  · rw [if_pos hbl]
    cases insn.immAt 0 with
    | none => simp [hbl]
    | some target => simp [hbl]
  · rw [if_neg hbl]
    by_cases hret : insn.id = .ret
    · simp [hret]
    · by_cases hblr : insn.id = .blr
      · simp [hblr]
      · by_cases hbr : insn.id = .br
        · simp [hbr]
        · simp [hbl, hret, hblr, hbr]

/-- What is asked to have recorded about the instructions of a set, except addresses. -/
theorem mem_entriesOf_site {P : Nat → Prop} {entry : StructuralEntry} (hsite : entry.IsSite) :
    entry ∈ entriesOf P address size insns ↔ ∃ i insn, P i ∧ insns[i]? = some insn ∧
      (entry ∈ transferEntry insn ∨ entry ∈ branchEntry address size insn) := by
  have hnot : ∀ i insn, entry ∉ addressEntry insns (runEnd insns i) i insn := by
    intro i insn hmem
    obtain ⟨materialization, rfl⟩ | rfl := mem_addressEntry hmem
    · exact hsite
    · exact hsite
  rw [mem_entriesOf]
  simp only [mem_append, hnot, or_false]

end Entries

end DartPlant.Analyzer
