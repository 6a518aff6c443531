import DartPlant.Core.Status
import Mathlib.Data.Fintype.Card
import Mathlib.Data.List.Sort

/-! # The return sites of a Dart entry

`CollectReachableArm64Returns` walks the control flow graph of one entry's code range and lists the
addresses of the RET instructions it reaches.  Every edge it cannot follow makes it give up, so a
list it returns is complete.

Instructions are the 32-bit words of the code; every address the walk looks at is a multiple of
four away from the start of the range.
-/

namespace DartPlant
open List

/-- One instruction word. -/
abbrev Instruction := BitVec 32

structure Arm64ReturnPatch where
  address : Address
  originalInstruction : Instruction
  patchedInstruction : Instruction
  consumers : Nat
  deriving DecidableEq, Repr

/-! ## Decoding -/

def isDartReturn (instruction : Instruction) : Bool := instruction == 0xd65f03c0#32

def isTerminalTrap (instruction : Instruction) : Bool :=
  instruction &&& 0xffe0001f#32 == 0xd4200000#32

/-- A branch to a register that is not a returning call. -/
def isIndirectBranch (instruction : Instruction) : Bool :=
  if instruction &&& 0xfe000000#32 ≠ 0xd6000000#32 then false
  else !(instruction.getLsbD 21 && !instruction.getLsbD 22)

/-- `SignExtend` of a `bits` wide field that starts at bit `low`, in bytes. -/
def branchOffset (instruction : Instruction) (low bits : Nat) : Int :=
  (instruction.extractLsb' low bits).toInt * 4

/-- `DecodeDirectBranch`: the offset, and whether the branch is conditional. -/
def decodeDirectBranch (instruction : Instruction) : Option (Int × Bool) :=
  if instruction &&& 0xfc000000#32 = 0x14000000#32 then
    some (branchOffset instruction 0 26, false)
  else if instruction &&& 0xff000010#32 = 0x54000000#32 then
    some (branchOffset instruction 5 19, true)
  else if instruction &&& 0x7e000000#32 = 0x34000000#32 then
    some (branchOffset instruction 5 19, true)
  else if instruction &&& 0x7e000000#32 = 0x36000000#32 then
    some (branchOffset instruction 5 14, true)
  else none

/-! ## The walk -/

/-- One code range: the word at each index, and the address of the first. -/
structure CodeRange where
  count : Nat
  word : Fin count → Instruction
  logicalStart : Address

namespace CodeRange

/-- The address of the instruction at an index. -/
def pc (range : CodeRange) (index : Nat) : Address :=
  range.logicalStart + BitVec.ofNat 64 (4 * index)

/-- The index a branch target has in the range. -/
def enqueue (range : CodeRange) (target : Address) : Option (Fin range.count) :=
  if target < range.logicalStart ∨
      target ≥ range.logicalStart + BitVec.ofNat 64 (4 * range.count) ∨ target &&& 3 ≠ 0 then none
  else
    let index := (target - range.logicalStart).toNat / 4
    if h : index < range.count then some ⟨index, h⟩ else none

/-- The target of a branch at an index, when it stays in the range. -/
def branchTarget (range : CodeRange) (index : Fin range.count) (delta : Int) :
    Option (Fin range.count) :=
  let signedTarget := (range.pc index).toInt + delta
  if signedTarget < 0 then none else range.enqueue (BitVec.ofInt 64 signedTarget)

/-- The instruction after an index. -/
def fallthrough (range : CodeRange) (index : Fin range.count) : Option (Fin range.count) :=
  if h : index.val + 1 < range.count then some ⟨index.val + 1, h⟩ else none

/-- What one visited instruction does to the walk: a return, the indices that follow it, or an edge
the walk does not support. -/
inductive Visit (n : Nat) where
  | return
  | next (pending : List (Fin n))
  | unsupported

/-- The body of the walk's loop at an unvisited index.  Successors are listed as they come off the
stack. -/
def visit (range : CodeRange) (index : Fin range.count) : Visit range.count :=
  let instruction := range.word index
  if isDartReturn instruction then .return
  else if isTerminalTrap instruction then .next []
  else if isIndirectBranch instruction then .unsupported
  else
    match decodeDirectBranch instruction with
    | some (delta, conditional) =>
      match range.branchTarget index delta with
      | none => .unsupported
      | some target =>
        if conditional = false then .next [target]
        else
          match range.fallthrough index with
          | none => .unsupported
          | some after => .next [after, target]
    | none =>
      match range.fallthrough index with
      | none => .unsupported
      | some after => .next [after]

theorem visit_length {range : CodeRange} {index : Fin range.count}
    {pending : List (Fin range.count)} (h : range.visit index = .next pending) :
    pending.length ≤ 2 := by
  unfold visit at h
  dsimp only at h
  repeat' split at h
  all_goals cases h
  all_goals simp only [length_nil, length_cons, Nat.zero_le, Nat.reduceAdd,
    Nat.reduceLeDiff]

/-- The loop: the indices still to visit, the top of the stack first.  `walkMeasure` shows that the
fuel the caller gives it is never used up. -/
def walk (range : CodeRange) : Nat → Finset (Fin range.count) → List (Fin range.count) →
    List (Fin range.count) → Option (List (Fin range.count))
  | 0, _, _, _ => none
  | _ + 1, _, [], returns => some returns
  | fuel + 1, visited, index :: pending, returns =>
    if index ∈ visited then range.walk fuel visited pending returns
    else
      match range.visit index with
      | .return => range.walk fuel (insert index visited) pending (returns ++ [index])
      | .unsupported => none
      | .next successors => range.walk fuel (insert index visited) (successors ++ pending) returns

/-- Each turn pops an index, and each index is expanded once into at most two. -/
def walkMeasure (range : CodeRange) (visited : Finset (Fin range.count))
    (pending : List (Fin range.count)) : Nat :=
  3 * (range.count - visited.card) + pending.length

theorem walkMeasure_insert {range : CodeRange} {visited : Finset (Fin range.count)}
    {index : Fin range.count} (h : index ∉ visited) {pending successors : List (Fin range.count)}
    (hlength : successors.length ≤ 2) :
    range.walkMeasure (insert index visited) (successors ++ pending) <
      range.walkMeasure visited (index :: pending) := by
  have hcard : (insert index visited).card = visited.card + 1 := Finset.card_insert_of_notMem h
  have hle : (insert index visited).card ≤ range.count :=
    (Finset.card_le_univ _).trans_eq (Fintype.card_fin _)
  simp only [walkMeasure, length_append, length_cons]
  omega

/-- What the walk records about a return it found. -/
def site (range : CodeRange) (index : Fin range.count) : Arm64ReturnPatch where
  address := range.pc index
  originalInstruction := range.word index
  patchedInstruction := 0
  consumers := 0

end CodeRange

/-- The order of the recorded sites. -/
def siteLe (left right : Arm64ReturnPatch) : Prop := left.address ≤ right.address

instance : DecidableRel siteLe := fun left right =>
  inferInstanceAs (Decidable (left.address ≤ right.address))

/-- `std::unique` on addresses, after a site that stays: of neighbours with one address the first
stays. -/
def uniqueAfter (site : Arm64ReturnPatch) : List Arm64ReturnPatch → List Arm64ReturnPatch
  | [] => [site]
  | other :: sites =>
    if site.address = other.address then uniqueAfter site sites
    else site :: uniqueAfter other sites

def uniqueSites : List Arm64ReturnPatch → List Arm64ReturnPatch
  | [] => []
  | site :: sites => uniqueAfter site sites

/-- `CollectReachableArm64Returns` over the code that `pristine` holds at and after
`logicalStart`. -/
def collectReachableArm64Returns (pristine : Address → Instruction) (size : BitVec 64)
    (logicalStart : Address) : Option (List Arm64ReturnPatch) :=
  if hsize : size < 4#64 then none
  else if logicalStart &&& 3 ≠ 0 ∨ size &&& 3 ≠ 0 ∨ logicalStart > BitVec.allOnes 64 - size then
    none
  else
    let range : CodeRange := {
      count := size.toNat / 4
      word := fun index => pristine (logicalStart + BitVec.ofNat 64 (4 * index))
      logicalStart := logicalStart }
    have hentry : 0 < range.count := by
      simp only [BitVec.lt_def, BitVec.toNat_ofNat, Nat.not_lt] at hsize
      show 0 < size.toNat / 4
      omega
    match range.walk (3 * range.count + 2) ∅ [⟨0, hentry⟩] [] with
    | none => none
    | some returns =>
      let sites := uniqueSites
        ((returns.map range.site).insertionSort siteLe)
      if sites = [] then none else some sites

/-! ## Laws -/

namespace CodeRange
variable {range : CodeRange}

theorem visit_return {index : Fin range.count} (h : range.visit index = .return) :
    isDartReturn (range.word index) = true := by
  unfold visit at h
  dsimp only at h
  split at h
  · assumption
  · repeat' split at h
    all_goals cases h

/-- The walk lists indices of RET instructions. -/
theorem walk_returns {fuel : Nat} {visited : Finset (Fin range.count)}
    {pending returns out : List (Fin range.count)}
    (h : range.walk fuel visited pending returns = some out)
    (hreturns : ∀ index ∈ returns, isDartReturn (range.word index) = true) :
    ∀ index ∈ out, isDartReturn (range.word index) = true := by
  fun_induction range.walk fuel visited pending returns with
  | case1 => cases h
  | case2 =>
    cases h
    exact hreturns
  | case3 _ _ _ _ _ _ ih => exact ih h hreturns
  | case4 _ _ _ _ _ _ hvisit ih =>
    refine ih h fun other hother => ?_
    rcases mem_append.mp hother with hother | hother
    · exact hreturns other hother
    · rw [mem_singleton.mp hother]
      exact visit_return hvisit
  | case5 => cases h
  | case6 _ _ _ _ _ _ _ _ ih => exact ih h hreturns

end CodeRange

instance : Std.Total siteLe := ⟨fun left right => BitVec.le_total left.address right.address⟩
instance : IsTrans Arm64ReturnPatch siteLe := ⟨fun _ _ _ => BitVec.le_trans⟩

theorem mem_uniqueAfter {first site : Arm64ReturnPatch} {sites : List Arm64ReturnPatch}
    (h : site ∈ uniqueAfter first sites) : site ∈ first :: sites := by
  induction sites generalizing first with
  | nil => exact h
  | cons other sites ih =>
    rw [uniqueAfter] at h
    split at h
    · rcases mem_cons.mp (ih h) with rfl | hmem
      · exact mem_cons_self
      · exact mem_cons_of_mem _ (mem_cons_of_mem _ hmem)
    · rcases mem_cons.mp h with rfl | hmem
      · exact mem_cons_self
      · exact mem_cons_of_mem _ (ih hmem)

theorem uniqueAfter_strict {first : Arm64ReturnPatch} {sites : List Arm64ReturnPatch}
    (h : (first :: sites).Pairwise siteLe) :
    (uniqueAfter first sites).Pairwise fun left right => left.address < right.address := by
  induction sites generalizing first with
  | nil => exact pairwise_singleton _ _
  | cons other sites ih =>
    obtain ⟨hfirst, hrest⟩ := pairwise_cons.mp h
    rw [uniqueAfter]
    split
    · exact ih (pairwise_cons.mpr ⟨fun site hsite => hfirst site (mem_cons_of_mem _ hsite),
        (pairwise_cons.mp hrest).2⟩)
    · next hne =>
      refine pairwise_cons.mpr ⟨fun site hsite => ?_, ih hrest⟩
      have hle : first.address ≤ other.address := hfirst other mem_cons_self
      have hle' : other.address ≤ site.address := by
        rcases mem_cons.mp (mem_uniqueAfter hsite) with rfl | hmem
        · exact BitVec.le_refl _
        · exact (pairwise_cons.mp hrest).1 site hmem
      rw [BitVec.le_def] at hle hle'
      rw [BitVec.lt_def]
      have hne' : first.address.toNat ≠ other.address.toNat := fun heq =>
        hne (BitVec.eq_of_toNat_eq heq)
      omega

theorem mem_uniqueSites {site : Arm64ReturnPatch} {sites : List Arm64ReturnPatch}
    (h : site ∈ uniqueSites sites) : site ∈ sites := by
  cases sites with
  | nil => exact h
  | cons first sites => exact mem_uniqueAfter h

theorem uniqueSites_strict {sites : List Arm64ReturnPatch} (h : sites.Pairwise siteLe) :
    (uniqueSites sites).Pairwise fun left right => left.address < right.address := by
  cases sites with
  | nil => exact .nil
  | cons first sites => exact uniqueAfter_strict h

/-- The recorded sites are RET instructions of the pristine code, each address once, and there is
at least one. -/
theorem collectReachableArm64Returns_spec {pristine : Address → Instruction} {size : BitVec 64}
    {logicalStart : Address} {sites : List Arm64ReturnPatch}
    (h : collectReachableArm64Returns pristine size logicalStart = some sites) :
    sites ≠ [] ∧ (sites.map Arm64ReturnPatch.address).Nodup ∧
      ∀ site ∈ sites, site.originalInstruction = pristine site.address ∧
        isDartReturn (pristine site.address) = true := by
  unfold collectReachableArm64Returns at h
  split at h
  · cases h
  · split at h
    · cases h
    · dsimp only at h
      split at h
      · cases h
      · next returns hwalk =>
        split at h
        · cases h
        · next hne =>
          cases h
          refine ⟨hne, ?_, fun site hsite => ?_⟩
          · refine pairwise_map.mpr ((uniqueSites_strict
              (pairwise_insertionSort siteLe _)).imp ?_)
            intro left right hlt heq
            rw [heq] at hlt
            exact BitVec.lt_irrefl _ hlt
          · have hmem := (mem_insertionSort _).mp (mem_uniqueSites hsite)
            obtain ⟨index, hindex, rfl⟩ := mem_map.mp hmem
            have hreturn := CodeRange.walk_returns hwalk (fun _ h => absurd h not_mem_nil)
              index hindex
            exact ⟨rfl, hreturn⟩

/-! ## A shared body -/

/-- The words of two entries that share a return: the first entry at 0x1000 reaches the returns at
0x100c and 0x1018, the second at 0x1010 those at 0x1018 and 0x101c. -/
def sharedBody : Address → Instruction := fun address =>
  ([0x540000c0#32, 0x14000002#32, 0xd503201f#32, 0xd65f03c0#32, 0x54000040#32, 0x14000002#32,
    0xd65f03c0#32, 0xd65f03c0#32].getD ((address - 0x1000#64).toNat / 4) 0)

example : (collectReachableArm64Returns sharedBody 32 0x1000).map
    (fun sites => sites.map Arm64ReturnPatch.address) = some [0x100c, 0x1018] := by decide +kernel

end DartPlant
