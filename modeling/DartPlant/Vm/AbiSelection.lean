import DartPlant.Lib.SoleKey
import DartPlant.Vm.AbiResolver

/-! # Selections of one ABI

Next to the selection of a capability's ABI stand the selections of whole ABI domains: of the core
candidates while a binding is resolved, and of a set of domains given as a list or as a mask.  All
of them ask the rows that passed for their keys, and select when there is exactly one.  A consumer of
several capabilities takes a row that all of their selections share.

What a row says of itself is in `AbiKeys`, for any type of rows.
-/

namespace DartPlant
open SoleKey

/-! ## ABI domains -/

inductive AbiDomain where
  | core
  | call
  | object
  | transition
  | exception
  deriving DecidableEq, Repr

/-- `AbiDomainBit`. -/
def abiDomainBit : AbiDomain → AbiDomainMask
  | .core => 1 <<< 0
  | .call => 1 <<< 1
  | .object => 1 <<< 2
  | .transition => 1 <<< 3
  | .exception => 1 <<< 4

/-- The identifiers of a profile, which are C strings and may be missing. -/
structure AbiIdentity where
  core : Option String
  call : Option String
  object : Option String
  transition : Option String
  exception : Option String
  deriving DecidableEq, Repr

/-- `DomainAbiId`. -/
def AbiIdentity.domainAbiId (identity : AbiIdentity) : AbiDomain → String
  | .core => identity.core.getD ""
  | .call => identity.call.getD ""
  | .object => identity.object.getD ""
  | .transition => identity.transition.getD ""
  | .exception => identity.exception.getD ""

/-- The identifiers of the domains behind `key`, or no key when one is missing. -/
def AbiIdentity.appendIds (identity : AbiIdentity) (key : String) : List AbiDomain → String
  | [] => key
  | domain :: domains =>
    if identity.domainAbiId domain = "" then ""
    else identity.appendIds (key ++ identity.domainAbiId domain ++ "\x1f") domains

/-- `BuildDomainAbiKey`. -/
def AbiIdentity.buildDomainAbiKey (identity : AbiIdentity) (domains : AbiDomainMask) : String :=
  identity.appendIds "" <| [AbiDomain.core, .call, .object, .transition, .exception].filter
    fun domain => domains &&& abiDomainBit domain != 0

/-- What the selections read of a row. -/
structure AbiKeys (Row : Type) where
  identity : Row → AbiIdentity
  /-- `BuildCapabilityAbiKey`. -/
  capabilityKey : Row → VmCapability → String
  noCapability : ∀ row, capabilityKey row kCapabilityNone = ""

section Selections
variable {Row : Type} [DecidableEq Row] (keys : AbiKeys Row)

/-! ## The candidates of a binding -/

structure CandidateDiagnostic (Row : Type) where
  profile : Option Row
  snapshotHashMatch : Bool
  /-- `probe.passed`. -/
  passed : Bool

/-- `DomainAbiId` of the candidate's profile; a candidate without a profile has none. -/
def CandidateDiagnostic.abiId (domain : AbiDomain) (candidate : CandidateDiagnostic Row) : String :=
  match candidate.profile with
  | none => ""
  | some profile => (keys.identity profile).domainAbiId domain

structure CandidateSelection (Row : Type) where
  selected : Option (CandidateDiagnostic Row) := none
  passedRows : Nat := 0
  distinctAbis : Nat := 0

/-- A later candidate replaces the one chosen when only the later one matches the snapshot. -/
def ReplacesCandidate : Option (CandidateDiagnostic Row) → CandidateDiagnostic Row → Prop
  | none, _ => True
  | some chosen, candidate => chosen.snapshotHashMatch = false ∧ candidate.snapshotHashMatch = true

instance (chosen : Option (CandidateDiagnostic Row)) (candidate : CandidateDiagnostic Row) :
    Decidable (ReplacesCandidate chosen candidate) :=
  match chosen with
  | none => .isTrue trivial
  | some chosen => inferInstanceAs
      (Decidable (chosen.snapshotHashMatch = false ∧ candidate.snapshotHashMatch = true))

/-- `SelectUniquePassingCandidate`. -/
def selectUniquePassingCandidate (candidates : List (CandidateDiagnostic Row))
    (domain : AbiDomain) : CandidateSelection Row :=
  let rows := (candidates.filter fun candidate => candidate.passed).filter
    fun candidate => candidate.abiId keys domain != ""
  match (rows.map fun candidate => candidate.abiId keys domain).dedup with
  | [abi] =>
    { selected := keep ReplacesCandidate
        (rows.filter fun candidate => candidate.abiId keys domain == abi)
      passedRows := rows.length
      distinctAbis := 1 }
  | abis => { passedRows := rows.length, distinctAbis := abis.length }

/-! ## Sets of domains -/

/-- What `SelectDomainAbiSet` fills in of a `DomainSetSelection`; the rows stay empty. -/
structure DomainSelectionKeys (Row : Type) where
  representative : Option Row := none
  abiDomainKey : String := ""
  compatibleRows : Nat := 0
  distinctDomainSets : Nat := 0

def DomainSelectionKeys.passed (selection : DomainSelectionKeys Row) : Bool :=
  selection.representative.isSome && selection.distinctDomainSets == 1

/-- The rows that passed. -/
def passingRows (profiles : List Row) (compatible : List Bool) : List Row :=
  ((profiles.zip compatible).filter fun row => row.2).map Prod.fst

/-- The two loops of `SelectDomainAbiSet`, with the key of a row and who stands for the selection. -/
def selectDomainSet (key : Row → String) (pick : List Row → Option Row) (profiles : List Row)
    (compatible : List Bool) : DomainSelectionKeys Row :=
  if compatible.length ≠ profiles.length then {}
  else
    let rows := (passingRows profiles compatible).filter fun row => key row != ""
    match (rows.map key).dedup with
    | [abi] =>
      { representative := pick (rows.filter fun row => key row == abi)
        abiDomainKey := abi
        compatibleRows := rows.length
        distinctDomainSets := 1 }
    | abis => { compatibleRows := rows.length, distinctDomainSets := abis.length }

/-- `SelectDomainAbiSet` of a list of domains: the first row stands for the selection. -/
def selectDomainAbiSetOfList (candidates : AbiCandidateSet Row) (domains : List AbiDomain)
    (compatible : List Bool) : DomainSelectionKeys Row :=
  if domains = [] then {}
  else
    selectDomainSet (fun row => (keys.identity row).appendIds "" domains) List.head?
      candidates.profiles compatible

/-- `SelectDomainAbiSet` of a mask: the core representative stands for the selection, if it can. -/
def selectDomainAbiSet (candidates : AbiCandidateSet Row) (domains : AbiDomainMask)
    (compatible : List Bool) : DomainSelectionKeys Row :=
  if domains = 0 then {}
  else
    selectDomainSet (fun row => (keys.identity row).buildDomainAbiKey domains)
      (pickRepresentative candidates.representative) candidates.profiles compatible

/-! ## Consumers of several capabilities -/

/-- `CapabilityBinding::bound`; the representative is there. -/
def CapabilityBinding.bound (binding : CapabilityBinding Row) : Bool :=
  binding.capability != kCapabilityNone

/-- `CapabilityBinding::Contains`. -/
def CapabilityBinding.contains (binding : CapabilityBinding Row) (profile : Row) : Bool :=
  decide (profile ∈ binding.selectedRows)

/-- The check of one more capability: it is bound, and contains the candidate. -/
def containsCandidate (bindings : CapabilityBindingSet Row) (candidate : Row)
    (capability : VmCapability) : Bool :=
  match bindings.findBinding capability with
  | none => false
  | some binding => binding.bound && binding.contains candidate

/-- `ResolveCapabilityConsumerProfile`. -/
def resolveCapabilityConsumerProfile (bindings : CapabilityBindingSet Row) :
    List VmCapability → Option Row
  | [] => none
  | first :: others =>
    match bindings.findBinding first with
    | none => none
    | some binding =>
      if binding.bound then
        binding.selectedRows.find? fun candidate =>
          others.all (containsCandidate bindings candidate)
      else none

end Selections

end DartPlant
