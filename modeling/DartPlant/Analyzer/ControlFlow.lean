import DartPlant.Analyzer.Instructions
import DartPlant.Lib.Propagation
import Mathlib.Data.List.Dedup
import Mathlib.Data.List.Sort

/-! # Basic blocks and structural facts

`Decode` cuts the instructions into blocks and lists the successors of each, and
`CollectStructuralFacts` walks the blocks that the first one reaches and records the sites of
returns, calls and branches, and the addresses that ADR and ADRP make.
-/

namespace DartPlant.Analyzer
open Propagation

/-! ## `Decode` -/

/-- The block starts that an instruction asks for. -/
def startsAfter (insns : List Insn) (index : Nat) (insn : Insn) : List (BitVec 64) :=
  (match insns[index + 1]? with
    | some next => if insn.isTerminator then [next.address] else []
    | none => []) ++ insn.operandTarget.toList

/-- `starts`, before it is sorted. -/
def startAddresses (insns : List Insn) : List (BitVec 64) :=
  (insns.head?.map Insn.address).toList ++
    insns.zipIdx.flatMap fun entry => startsAfter insns entry.2 entry.1

/-- `std::sort` and `std::unique`; the first instruction with a start address starts a block. -/
def blockStarts (insns : List Insn) : List Nat :=
  let starts := ((startAddresses insns).insertionSort (· ≤ ·)).dedup
  (starts.filterMap fun start => insns.findIdx? (·.address == start)).insertionSort (· ≤ ·)

/-- A `Decoded` buffer. -/
structure Decoded where
  insns : List Insn
  starts : List Nat
  deriving DecidableEq, Repr

namespace Decoded
variable (decoded : Decoded)

def blockBegin (block : Nat) : Nat := decoded.starts.getD block decoded.insns.length

/-- The start of the next block, or the end of the buffer. -/
def blockEnd (block : Nat) : Nat := decoded.starts.getD (block + 1) decoded.insns.length

/-- The blocks that start at an address. -/
def blocksAt (target : BitVec 64) : List Nat :=
  (List.range decoded.starts.length).filter fun block =>
    (decoded.insns[decoded.blockBegin block]?).any (·.address == target)

def successors (block : Nat) : List Nat :=
  match decoded.insns[decoded.blockEnd block - 1]? with
  | none => []
  | some last =>
    if decoded.blockBegin block < decoded.blockEnd block then
      (match last.operandTarget with
        | some target => decoded.blocksAt target
        | none => []) ++
      if (last.isConditionalBranch ∨ last.isTerminator = false) ∧
          block + 1 < decoded.starts.length then [block + 1] else []
    else []

end Decoded

def decode (insns : List Insn) : Decoded := ⟨insns, blockStarts insns⟩

/-! ## `CollectStructuralFacts` -/

def kMaxStructuralSites : Nat := 64

structure DirectControlFlowEdge where
  site : BitVec 64
  target : BitVec 64
  deriving DecidableEq, Repr

inductive AddressMaterializationKind where
  | adr
  | adrpAdd
  deriving DecidableEq, Repr

structure AddressMaterialization where
  kind : AddressMaterializationKind
  destinationRegister : Fin 31
  site : BitVec 64
  completionSite : BitVec 64
  target : BitVec 64
  deriving DecidableEq, Repr

/-- What an `AnalysisResult` says about the structure of the code. -/
structure StructuralFacts where
  hasUnknownControlFlow : Bool := false
  reachedReturn : Bool := false
  structuralEvidenceTruncated : Bool := false
  directCalls : List DirectControlFlowEdge := []
  returnSites : List (BitVec 64) := []
  externalBranches : List DirectControlFlowEdge := []
  indirectCallSites : List (BitVec 64) := []
  indirectBranchSites : List (BitVec 64) := []
  addressMaterializations : List AddressMaterialization := []
  deriving DecidableEq, Repr

/-- `AddStructuralSite` and `AddStructuralEdge`: the table after it, and whether there was room. -/
def addSite {α : Type} (sites : List α) (site : α) : List α × Bool :=
  if sites.length < kMaxStructuralSites then (sites ++ [site], true) else (sites, false)

/-- The blocks that the first one reaches; a state is only a mark here. -/
def structuralFlow (decoded : Decoded) : Propagation.Flow Unit Unit where
  successors := decoded.successors
  transfer := fun _ state collected => (state, collected)
  merge := fun old _ => (old, false)

def reachableBlocks (decoded : Decoded) : Option (Work Unit Unit) :=
  (structuralFlow decoded).run (decoded.starts.length + 1) (Propagation.Flow.begin 0 () ())

/-- `WritesGpRegister`. -/
def writesGpRegister (insn : Insn) (wanted : AArch64Reg) : Bool :=
  if insn.id = .hint then false
  else if insn.accessOk = false then true
  else insn.regsWrite.any fun written => written.sameGp wanted

/-- `DecodeAddressAdd`: the destination and the immediate. -/
def decodeAddressAdd (insn : Insn) (base : AArch64Reg) : Option (Fin 31 × BitVec 64) :=
  if insn.id = .add then
    match insn.operands with
    | .reg destination :: .reg source :: .imm immediate :: _ =>
      if source.sameGp base ∧ ¬ immediate.msb then
        destination.gpIndex.map fun index => (index, immediate)
      else none
    | _ => none
  else none

/-- The end of the buffer, as an address. -/
def bufferEnd (address : BitVec 64) (size : Nat) : Nat :=
  if 2 ^ 64 - 1 - address.toNat < size then 2 ^ 64 - 1 else address.toNat + size

/-- The target counts as outside of the buffer. -/
def leavesRange (address : BitVec 64) (size : Nat) (target : BitVec 64) : Bool :=
  target < address || bufferEnd address size ≤ target.toNat

/-- What an instruction asks to have recorded. -/
inductive StructuralEntry where
  | directCall (edge : DirectControlFlowEdge)
  | returnSite (site : BitVec 64)
  | indirectCall (site : BitVec 64)
  | indirectBranch (site : BitVec 64)
  | externalBranch (edge : DirectControlFlowEdge)
  | materialization (materialization : AddressMaterialization)
  -- The destination of an ADR is no general register.
  | badDestination
  deriving DecidableEq, Repr

/-- A call, a return or a branch to a register. -/
def transferEntry (insn : Insn) : List StructuralEntry :=
  if insn.id = .bl then
    match insn.immAt 0 with
    | some target => [.directCall ⟨insn.address, target⟩]
    | none => []
  else if insn.id = .ret then [.returnSite insn.address]
  else if insn.id = .blr then [.indirectCall insn.address]
  else if insn.id = .br then [.indirectBranch insn.address]
  else []

def branchEntry (address : BitVec 64) (size : Nat) (insn : Insn) : List StructuralEntry :=
  match insn.operandTarget with
  | some target =>
    if leavesRange address size target then [.externalBranch ⟨insn.address, target⟩] else []
  | none => []

/-- The ADD that completes an ADRP, at most two instructions on and in the same block. -/
def completeAddress (insns : List Insn) (blockEnd index : Nat) (insn : Insn)
    (pageRegister : AArch64Reg) (page : BitVec 64) : List Nat → List StructuralEntry
  | [] => []
  | distance :: distances =>
    match insns[index + distance]? with
    | none => []
    | some candidate =>
      if blockEnd ≤ index + distance then []
      else match decodeAddressAdd candidate pageRegister with
        | some (destination, addend) =>
          if page.toNat + addend.toNat < 2 ^ 64 then
            [.materialization
              ⟨.adrpAdd, destination, insn.address, candidate.address, page + addend⟩]
          else []
        | none =>
          if writesGpRegister candidate pageRegister then []
          else completeAddress insns blockEnd index insn pageRegister page distances

def addressEntry (insns : List Insn) (blockEnd index : Nat) (insn : Insn) : List StructuralEntry :=
  match insn.operands with
  | .reg register :: .imm immediate :: _ =>
    if insn.id = .adr then
      match register.gpIndex with
      | some index =>
        [.materialization ⟨.adr, index, insn.address, insn.address, immediate⟩]
      | none => [.badDestination]
    else if insn.id = .adrp ∧ ¬ immediate.msb then
      completeAddress insns blockEnd index insn register immediate [1, 2]
    else []
  | _ => []

/-- All that the instruction at an index of a block asks for, in order. -/
def structuralEntries (address : BitVec 64) (size : Nat) (insns : List Insn)
    (blockEnd index : Nat) : List StructuralEntry :=
  match insns[index]? with
  | none => []
  | some insn =>
    transferEntry insn ++ branchEntry address size insn ++ addressEntry insns blockEnd index insn

/-- One entry is recorded, or the evidence is truncated. -/
def recordEntry (facts : StructuralFacts) : StructuralEntry → StructuralFacts
  | .directCall edge =>
    let (sites, added) := addSite facts.directCalls edge
    { facts with
      directCalls := sites
      structuralEvidenceTruncated := facts.structuralEvidenceTruncated || !added }
  | .returnSite site =>
    let (sites, added) := addSite facts.returnSites site
    { facts with
      reachedReturn := true, returnSites := sites
      structuralEvidenceTruncated := facts.structuralEvidenceTruncated || !added }
  | .indirectCall site =>
    let (sites, added) := addSite facts.indirectCallSites site
    { facts with
      indirectCallSites := sites
      structuralEvidenceTruncated := facts.structuralEvidenceTruncated || !added }
  | .indirectBranch site =>
    let (sites, added) := addSite facts.indirectBranchSites site
    { facts with
      hasUnknownControlFlow := true, indirectBranchSites := sites
      structuralEvidenceTruncated := facts.structuralEvidenceTruncated || !added }
  | .externalBranch edge =>
    let (sites, added) := addSite facts.externalBranches edge
    { facts with
      externalBranches := sites
      structuralEvidenceTruncated := facts.structuralEvidenceTruncated || !added }
  | .materialization entry =>
    let (sites, added) := addSite facts.addressMaterializations entry
    { facts with
      addressMaterializations := sites
      structuralEvidenceTruncated := facts.structuralEvidenceTruncated || !added }
  | .badDestination => { facts with structuralEvidenceTruncated := true }

/-- The entries of a block. -/
def blockEntries (address : BitVec 64) (size : Nat) (decoded : Decoded) (block : Nat) :
    List StructuralEntry :=
  (List.range' (decoded.blockBegin block)
    (decoded.blockEnd block - decoded.blockBegin block)).flatMap
      (structuralEntries address size decoded.insns (decoded.blockEnd block))

def collectStructuralFacts (decoded : Decoded) (address : BitVec 64) (size : Nat) :
    StructuralFacts :=
  if decoded.starts = [] then {}
  else match reachableBlocks decoded with
    | none => {}
    | some reached =>
      ((List.range decoded.starts.length).flatMap fun block =>
        if (reached.states block).isSome then blockEntries address size decoded block
        else []).foldl recordEntry {}

end DartPlant.Analyzer
