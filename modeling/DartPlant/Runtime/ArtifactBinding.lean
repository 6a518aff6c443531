import DartPlant.Abi.RuntimeEvidence
import DartPlant.Lib.FallibleLoop
import DartPlant.Lib.FreshNames
import Mathlib.Data.Finset.Card

/-! # Binding an artifact index

The records of an artifact index are bound to the live image: each one gets its runtime entry and
the payload that the entry lies in, and then the number of logical functions that share the entry.
An index that was bound before may lend an entry, which spares the fingerprint of the code.
-/

namespace DartPlant
open FallibleLoop List

/-- A `SnapshotFunction` of an artifact index, as far as its binding reads and writes it. -/
structure ArtifactFunction where
  libraryUri : String
  className : String
  functionName : String
  signature : String
  entryKind : BitVec 32
  entryVa : BitVec 64
  codeSize : BitVec 64
  codeSectionVa : BitVec 64
  fingerprint : String
  codePayloadVa : BitVec 64
  codePayloadStart : Address
  codeInstructionsLength : BitVec 32
  runtimeEntry : Address
  codeEntry : Address
  -- The source counts in 32 bits, and an index has fewer records than that.
  entryAliasCount : Nat
  physicalEntryAliasCount : Nat
  codeIdentityProof : DartPlantCodeIdentityProof
  functionKind : BitVec 32
  closureCallEntryOnly : Bool
  deriving DecidableEq, Repr

structure ArtifactSnapshotIndex where
  moduleName : String
  buildId : String
  snapshotHash : String
  functions : List ArtifactFunction
  deriving DecidableEq, Repr

/-- The kinds of a profile whose functions are closures. -/
structure ClosureKinds where
  closure : BitVec 32
  implicitClosure : BitVec 32
  deriving DecidableEq, Repr

/-- The live image: its module and snapshot, the fingerprints of its code, and the profile that the
table of profiles has for a snapshot. -/
structure BindingImage where
  snapshot : FlutterSnapshotSource
  module : ModuleImage
  fingerprintCodeWithManagedPatches : Address → BitVec 64 → String
  findRuntimeProfileBySnapshot : String → String → Option ClosureKinds

/-- `SameSnapshotLogicalFunction`. -/
def sameSnapshotLogicalFunction (left right : ArtifactFunction) : Bool :=
  left.libraryUri == right.libraryUri && left.className == right.className &&
    left.functionName == right.functionName && left.signature == right.signature

/-! ## One record -/

/-- The record is complete and of a kind that is known. -/
def checkRecord (record : ArtifactFunction) : Result Unit :=
  if 3 < record.entryKind ∨ record.entryVa = 0 ∨ record.codeSize = 0 ∨
      4294967295 < record.codeSize ∨ record.fingerprint = "" then
    .error ⟨.metadataInvalid,
      "artifact snapshot index contains an unsupported or incomplete record"⟩
  else .ok ()

/-- Whether the record is a closure's; without a profile only regular functions are known. -/
def closureKind (profile : Option ClosureKinds) (record : ArtifactFunction) : Result Bool :=
  match profile with
  | some kinds =>
    .ok (record.functionKind == kinds.closure || record.functionKind == kinds.implicitClosure)
  | none =>
    if record.functionKind ≠ 0 ∨ record.closureCallEntryOnly = true then
      .error ⟨.profileMismatch,
        "artifact Function kind requires an exact Dart VM runtime profile"⟩
    else .ok false

def checkClosureEvidence (profile : Option ClosureKinds) (record : ArtifactFunction) :
    Result Unit := do
  let closure ← closureKind profile record
  if record.closureCallEntryOnly ≠ closure ∨ (closure = true ∧ record.entryKind ≠ 0) then
    .error ⟨.metadataInvalid,
      "artifact closure entry evidence contradicts Dart PRODUCT AOT semantics"⟩
  else .ok ()

/-- The record of an earlier index whose entry can be taken over. -/
def reusableRecord (existing : Option ArtifactSnapshotIndex) (index : ArtifactSnapshotIndex)
    (record : ArtifactFunction) : Option ArtifactFunction :=
  existing.bind fun existing =>
    if existing.moduleName = index.moduleName ∧ existing.buildId = index.buildId ∧
        existing.snapshotHash = index.snapshotHash then
      existing.functions.find? fun old => old.entryVa == record.entryVa &&
        old.codeSize == record.codeSize && old.codeSectionVa == record.codeSectionVa &&
        old.codePayloadVa == record.codePayloadVa &&
        old.codeInstructionsLength == record.codeInstructionsLength &&
        old.fingerprint == record.fingerprint && old.runtimeEntry != 0
    else none

/-- The runtime entry, from the earlier index or from the image. -/
def locateEntry (image : BindingImage) (reusable : Option ArtifactFunction)
    (record : ArtifactFunction) : Result Address :=
  match reusable with
  | some old =>
    if image.module.containsExecutable old.runtimeEntry record.codeSize = false then
      .error ⟨.addressOutsideExecutable,
        "previously bound artifact entry is no longer executable"⟩
    else .ok old.runtimeEntry
  | none =>
    match image.snapshot.resolveInstructionVa image.module record.entryVa with
    | none =>
      .error ⟨.addressOutsideExecutable,
        "artifact snapshot index entry cannot be mapped into the live image"⟩
    | some resolved =>
      if image.module.containsExecutable resolved record.codeSize = false then
        .error ⟨.addressOutsideExecutable,
          "artifact snapshot index entry cannot be mapped into the live image"⟩
      else if image.fingerprintCodeWithManagedPatches resolved record.codeSize ≠
          record.fingerprint then
        .error ⟨.fingerprintMismatch,
          "artifact snapshot index code fingerprint does not match the live image"⟩
      else .ok resolved

/-- The payload that the entry lies in: its start and its length.  A record without one is its own
payload. -/
def locatePayload (image : BindingImage) (record : ArtifactFunction) (runtimeEntry : Address) :
    Result (Address × BitVec 32) :=
  if record.codePayloadVa ≠ 0 then
    let length := record.codeInstructionsLength.setWidth 64
    match image.snapshot.resolveInstructionVa image.module record.codePayloadVa with
    | none =>
      .error ⟨.profileMismatch, "artifact Code payload identity does not match the live image"⟩
    | some payload =>
      if record.codeInstructionsLength = 0 ∨
          image.module.containsExecutable payload length = false ∨
          runtimeEntry < payload ∨ length ≤ runtimeEntry - payload ∨
          record.codeSize ≠ length - (runtimeEntry - payload) then
        .error ⟨.profileMismatch, "artifact Code payload identity does not match the live image"⟩
      else .ok (payload, record.codeInstructionsLength)
  else .ok (runtimeEntry, record.codeSize.setWidth 32)

/-- One turn of the first loop, up to the proofs of the entry. -/
def bindRecord (image : BindingImage) (existing : Option ArtifactSnapshotIndex)
    (index : ArtifactSnapshotIndex) (record : ArtifactFunction) : Result ArtifactFunction := do
  checkRecord record
  checkClosureEvidence
    (image.findRuntimeProfileBySnapshot index.snapshotHash image.snapshot.profileName) record
  let runtimeEntry ← locateEntry image (reusableRecord existing index record) record
  let (payloadStart, length) ← locatePayload image record runtimeEntry
  return { record with
    runtimeEntry := runtimeEntry
    codeEntry := runtimeEntry
    codePayloadStart := payloadStart
    codeInstructionsLength := length }

/-! ## The whole index -/

/-- What a compiler proved about an entry: `identity_proofs` and `physical_alias_counts`. -/
abbrev EntryProofs := Address → Option (DartPlantCodeIdentityProof × Nat)

/-- The compiler's proof in a record. -/
def ArtifactFunction.evidence (record : ArtifactFunction) : DartPlantCodeIdentityProof × Nat :=
  (record.codeIdentityProof, record.physicalEntryAliasCount)

/-- The records of one entry must have one proof. -/
def noteProof (proofs : EntryProofs) (record : ArtifactFunction) : Result EntryProofs :=
  match proofs record.runtimeEntry with
  | none => .ok (Function.update proofs record.runtimeEntry (some record.evidence))
  | some evidence =>
    if evidence ≠ record.evidence then
      .error ⟨.metadataInvalid,
        "artifact snapshot index has inconsistent compiler identity proof for one Code entry"⟩
    else .ok proofs

/-- The first loop. -/
def bindRecords (image : BindingImage) (existing : Option ArtifactSnapshotIndex)
    (index : ArtifactSnapshotIndex) :
    EntryProofs → List ArtifactFunction → Result (List ArtifactFunction)
  | _, [] => .ok []
  | proofs, record :: rest => do
    let bound ← bindRecord image existing index record
    let proofs ← noteProof proofs bound
    let others ← bindRecords image existing index proofs rest
    return bound :: others

/-- The logical functions at an entry: the candidates with no earlier record of the same one. -/
def indexedAliasCount (entry : Address) : (earlier : List ArtifactFunction) →
    List ArtifactFunction → Nat
  | _, [] => 0
  | earlier, candidate :: rest =>
    if candidate.runtimeEntry ≠ entry then
      indexedAliasCount entry (earlier ++ [candidate]) rest
    else
      (if earlier.any fun previous =>
          previous.runtimeEntry == entry && sameSnapshotLogicalFunction previous candidate
        then 0 else 1) + indexedAliasCount entry (earlier ++ [candidate]) rest

/-- One turn of the second loop. -/
def countAliases (functions : List ArtifactFunction) (record : ArtifactFunction) :
    Result ArtifactFunction :=
  let indexed := indexedAliasCount record.runtimeEntry [] functions
  if record.codeIdentityProof = .unique ∧ indexed ≠ 1 then
    .error ⟨.metadataInvalid,
      "artifact snapshot index contradicts compiler UNIQUE Code identity proof"⟩
  else if record.codeIdentityProof = .shared ∧ record.physicalEntryAliasCount < indexed then
    .error ⟨.metadataInvalid,
      "artifact snapshot index contains more aliases than the compiler identity proof"⟩
  else
    let physical := if record.physicalEntryAliasCount = 0 then 1 else record.physicalEntryAliasCount
    .ok { record with entryAliasCount := max indexed physical }

/-- `BindArtifactSnapshotIndex`. -/
def bindArtifactSnapshotIndex (image : BindingImage) (index : ArtifactSnapshotIndex)
    (existing : Option ArtifactSnapshotIndex) : Result ArtifactSnapshotIndex :=
  if index.functions = [] ∨ index.moduleName ≠ image.module.name ∨ index.buildId = "" ∨
      equalsIgnoreCaseAscii index.buildId image.module.buildId = false ∨
      index.snapshotHash = "" ∨ index.snapshotHash ≠ image.snapshot.snapshotHash ∨
      image.snapshot.matches image.module = false then
    .error ⟨.profileMismatch,
      "artifact snapshot index header does not match the live app image"⟩
  else do
    let bound ← bindRecords image existing index (fun _ => none) index.functions
    let functions ← bound.mapM (countAliases bound)
    return { index with functions := functions }

/-! ## What a record is bound to -/

section Record
variable {image : BindingImage} {existing : Option ArtifactSnapshotIndex}
  {index : ArtifactSnapshotIndex} {record bound : ArtifactFunction}

/-- The entry of a record is executable and ends where its payload ends. -/
structure BoundInside (image : BindingImage) (record : ArtifactFunction) : Prop where
  executable : image.module.containsExecutable record.runtimeEntry record.codeSize = true
  start : record.codePayloadStart.toNat ≤ record.runtimeEntry.toNat
  ends : record.runtimeEntry.toNat + record.codeSize.toNat =
    record.codePayloadStart.toNat + record.codeInstructionsLength.toNat

theorem locateEntry_executable {reusable : Option ArtifactFunction} {runtimeEntry : Address}
    (h : locateEntry image reusable record = .ok runtimeEntry) :
    image.module.containsExecutable runtimeEntry record.codeSize = true := by
  unfold locateEntry at h
  split at h
  · split at h
    · cases h
    next hinside =>
      obtain rfl := Except.ok.inj h
      exact Bool.not_eq_false _ ▸ hinside
  · split at h
    · cases h
    · split at h
      · cases h
      next hinside =>
        split at h
        · cases h
        · obtain rfl := Except.ok.inj h
          exact Bool.not_eq_false _ ▸ hinside

theorem locatePayload_inside {runtimeEntry payload : Address} {length : BitVec 32}
    (hsize : record.codeSize.toNat ≤ 4294967295)
    (h : locatePayload image record runtimeEntry = .ok (payload, length)) :
    payload.toNat ≤ runtimeEntry.toNat ∧
      runtimeEntry.toNat + record.codeSize.toNat = payload.toNat + length.toNat := by
  unfold locatePayload at h
  split at h
  · dsimp only at h
    split at h
    · cases h
    · split at h
      · cases h
      next hchecks =>
        obtain ⟨rfl, rfl⟩ := Prod.mk.inj (Except.ok.inj h)
        simp only [not_or, not_not, BitVec.not_lt, BitVec.not_le] at hchecks
        obtain ⟨-, -, hstart, hlength, hends⟩ := hchecks
        have hwidth : (record.codeInstructionsLength.setWidth 64).toNat =
            record.codeInstructionsLength.toNat := BitVec.toNat_setWidth_of_le (by decide)
        rw [← hwidth, hends]
        generalize record.codeInstructionsLength.setWidth 64 = length at hlength
        bv_omega
  · obtain ⟨rfl, rfl⟩ := Prod.mk.inj (Except.ok.inj h)
    refine ⟨Nat.le_refl _, ?_⟩
    rw [BitVec.toNat_setWidth, Nat.mod_eq_of_lt (by omega)]

/-- A bound record is inside the image, and it is the record with its new addresses. -/
theorem bindRecord_eq_ok (h : bindRecord image existing index record = .ok bound) :
    BoundInside image bound ∧
      bound = { record with
        runtimeEntry := bound.runtimeEntry
        codeEntry := bound.runtimeEntry
        codePayloadStart := bound.codePayloadStart
        codeInstructionsLength := bound.codeInstructionsLength } ∧
      locateEntry image (reusableRecord existing index record) record = .ok bound.runtimeEntry := by
  unfold bindRecord at h
  obtain ⟨_, hrecord, h⟩ := of_bind_ok h
  obtain ⟨-, -, h⟩ := of_bind_ok h
  obtain ⟨runtimeEntry, hentry, h⟩ := of_bind_ok h
  obtain ⟨⟨payload, length⟩, hpayload, h⟩ := of_bind_ok h
  obtain rfl := Except.ok.inj h
  have hsize : record.codeSize.toNat ≤ 4294967295 := by
    unfold checkRecord at hrecord
    split at hrecord
    · cases hrecord
    next hchecks =>
      simp only [not_or, BitVec.not_lt] at hchecks
      exact hchecks.2.2.2.1
  obtain ⟨hstart, hends⟩ := locatePayload_inside hsize hpayload
  exact ⟨⟨locateEntry_executable hentry, hstart, hends⟩, rfl, hentry⟩

end Record

/-! ## The proofs of an entry -/

/-- The records of one entry have one proof. -/
def ProofsAgree (bound : List ArtifactFunction) : Prop :=
  ∀ left ∈ bound, ∀ right ∈ bound, left.runtimeEntry = right.runtimeEntry →
    left.evidence = right.evidence

/-- A proof is noted where the entry has none yet or the same one. -/
theorem noteProof_eq_ok {proofs noted : EntryProofs} {record : ArtifactFunction} :
    noteProof proofs record = .ok noted ↔
      (∀ evidence, proofs record.runtimeEntry = some evidence → evidence = record.evidence) ∧
        noted = Function.update proofs record.runtimeEntry (some record.evidence) := by
  unfold noteProof
  cases hfound : proofs record.runtimeEntry with
  | none =>
    constructor
    · intro h
      exact ⟨nofun, (Except.ok.inj h).symm⟩
    · rintro ⟨-, rfl⟩
      rfl
  | some found =>
    have hnoted : found = record.evidence →
        Function.update proofs record.runtimeEntry (some record.evidence) = proofs := by
      rintro rfl
      exact Function.update_eq_self_iff.mpr hfound.symm
    dsimp only
    split
    next hother =>
      exact ⟨nofun, fun h => absurd (h.1 found rfl) hother⟩
    next hsame =>
      rw [not_not] at hsame
      rw [hnoted hsame]
      constructor
      · intro h
        refine ⟨fun evidence hevidence => ?_, (Except.ok.inj h).symm⟩
        obtain rfl := Option.some.inj hevidence
        exact hsame
      · rintro ⟨-, rfl⟩
        rfl

/-- The proofs that the rest of a loop must agree with. -/
theorem proofs_update_iff {proofs : EntryProofs} {first : ArtifactFunction}
    {others : List ArtifactFunction}
    (hfirst : ∀ evidence, proofs first.runtimeEntry = some evidence → evidence = first.evidence) :
    (∀ record ∈ others, ∀ evidence, Function.update proofs first.runtimeEntry
        (some first.evidence) record.runtimeEntry = some evidence → evidence = record.evidence) ↔
      (∀ record ∈ others, record.runtimeEntry = first.runtimeEntry →
        first.evidence = record.evidence) ∧
      ∀ record ∈ others, ∀ evidence, proofs record.runtimeEntry = some evidence →
        evidence = record.evidence := by
  constructor
  · intro h
    have hsame : ∀ record ∈ others, record.runtimeEntry = first.runtimeEntry →
        first.evidence = record.evidence := by
      intro record hrecord hentry
      refine h record hrecord first.evidence ?_
      rw [hentry, Function.update_self]
    refine ⟨hsame, fun record hrecord evidence hevidence => ?_⟩
    by_cases hentry : record.runtimeEntry = first.runtimeEntry
    · rw [hentry] at hevidence
      exact (hfirst evidence hevidence).trans (hsame record hrecord hentry)
    · refine h record hrecord evidence ?_
      rw [Function.update_of_ne hentry, hevidence]
  · rintro ⟨hsame, hproofs⟩ record hrecord evidence hevidence
    by_cases hentry : record.runtimeEntry = first.runtimeEntry
    · rw [hentry, Function.update_self] at hevidence
      exact (Option.some.inj hevidence).symm.trans (hsame record hrecord hentry)
    · rw [Function.update_of_ne hentry] at hevidence
      exact hproofs record hrecord evidence hevidence

theorem proofsAgree_cons {first : ArtifactFunction} {others : List ArtifactFunction} :
    ProofsAgree (first :: others) ↔ ProofsAgree others ∧
      ∀ record ∈ others, record.runtimeEntry = first.runtimeEntry →
        first.evidence = record.evidence := by
  constructor
  · intro h
    refine ⟨fun left hleft right hright => ?_, fun record hrecord hentry => ?_⟩
    · exact h left (mem_cons_of_mem _ hleft) right (mem_cons_of_mem _ hright)
    · exact h first mem_cons_self record (mem_cons_of_mem _ hrecord) hentry.symm
  · rintro ⟨hothers, hfirst⟩ left hleft right hright hentry
    rcases mem_cons.mp hleft with rfl | hother
    · rcases mem_cons.mp hright with rfl | hother
      · rfl
      · exact hfirst right hother hentry.symm
    · rcases mem_cons.mp hright with rfl | hother'
      · exact (hfirst left hother hentry).symm
      · exact hothers left hother right hother' hentry

section Loops
variable {image : BindingImage} {existing : Option ArtifactSnapshotIndex}
  {index : ArtifactSnapshotIndex} {records bound : List ArtifactFunction}

/-- The first loop succeeds on records that can be bound and whose proofs agree. -/
theorem bindRecords_eq_ok {proofs : EntryProofs} :
    bindRecords image existing index proofs records = .ok bound ↔
      List.Forall₂ (fun record result => bindRecord image existing index record = .ok result)
        records bound ∧ ProofsAgree bound ∧
          ∀ record ∈ bound, ∀ evidence, proofs record.runtimeEntry = some evidence →
            evidence = record.evidence := by
  induction records generalizing proofs bound with
  | nil =>
    constructor
    · intro h
      obtain rfl := Except.ok.inj h
      exact ⟨.nil, nofun, nofun⟩
    · rintro ⟨hbound, -, -⟩
      cases hbound
      rfl
  | cons record records ih =>
    constructor
    · intro h
      obtain ⟨first, hfirst, h⟩ := of_bind_ok h
      obtain ⟨noted, hnoted, h⟩ := of_bind_ok h
      obtain ⟨others, hothers, h⟩ := of_bind_ok h
      obtain rfl := Except.ok.inj h
      obtain ⟨hrest, hagree, hproofs⟩ := ih.mp hothers
      obtain ⟨hknown, rfl⟩ := noteProof_eq_ok.mp hnoted
      obtain ⟨hsame, hproofs⟩ := (proofs_update_iff hknown).mp hproofs
      exact ⟨.cons hfirst hrest, proofsAgree_cons.mpr ⟨hagree, hsame⟩,
        forall_mem_cons.mpr ⟨hknown, hproofs⟩⟩
    · rintro ⟨hbound, hagree, hproofs⟩
      cases hbound with
      | @cons _ first _ others hfirst hrest =>
        obtain ⟨hknown, hproofs⟩ := forall_mem_cons.mp hproofs
        obtain ⟨hagree, hsame⟩ := proofsAgree_cons.mp hagree
        have hothers := ih.mpr ⟨hrest, hagree, (proofs_update_iff hknown).mpr ⟨hsame, hproofs⟩⟩
        have hnoted := noteProof_eq_ok.mpr ⟨hknown, rfl⟩
        rw [bindRecords, hfirst]
        show (noteProof proofs first >>= fun proofs => _) = _
        rw [hnoted]
        show (bindRecords image existing index _ records >>= fun others => _) = _
        rw [hothers]
        rfl

end Loops

/-! ## The functions at an entry -/

/-- The logical function of a record. -/
def ArtifactFunction.logical (record : ArtifactFunction) : String × String × String × String :=
  (record.libraryUri, record.className, record.functionName, record.signature)

theorem sameSnapshotLogicalFunction_iff {left right : ArtifactFunction} :
    sameSnapshotLogicalFunction left right = true ↔ left.logical = right.logical := by
  simp [sameSnapshotLogicalFunction, ArtifactFunction.logical, and_assoc]

/-- The logical functions that are bound at an entry. -/
def logicalFunctionsAt (functions : List ArtifactFunction) (entry : Address) :
    Finset (String × String × String × String) :=
  ((functions.filter fun record => record.runtimeEntry == entry).map
    ArtifactFunction.logical).toFinset

theorem mem_logicalFunctionsAt {functions : List ArtifactFunction} {entry : Address}
    {name : String × String × String × String} :
    name ∈ logicalFunctionsAt functions entry ↔
      ∃ record ∈ functions, record.runtimeEntry = entry ∧ record.logical = name := by
  unfold logicalFunctionsAt
  rw [mem_toFinset, mem_map]
  simp only [mem_filter, beq_iff_eq, and_assoc]

theorem logicalFunctionsAt_concat (earlier : List ArtifactFunction) (candidate : ArtifactFunction)
    (entry : Address) :
    logicalFunctionsAt (earlier ++ [candidate]) entry =
      logicalFunctionsAt (candidate :: earlier) entry := by
  ext name
  have hmem (record : ArtifactFunction) :
      record ∈ earlier ++ [candidate] ↔ record ∈ candidate :: earlier := by
    rw [mem_append, mem_singleton, mem_cons, or_comm]
  simp only [mem_logicalFunctionsAt, hmem]

theorem logicalFunctionsAt_cons_of_eq {candidate : ArtifactFunction}
    {functions : List ArtifactFunction} {entry : Address} (h : candidate.runtimeEntry = entry) :
    logicalFunctionsAt (candidate :: functions) entry =
      insert candidate.logical (logicalFunctionsAt functions entry) := by
  unfold logicalFunctionsAt
  rw [filter_cons_of_pos (by simpa only [beq_iff_eq] using h), map_cons,
    toFinset_cons]

theorem logicalFunctionsAt_cons_of_ne {candidate : ArtifactFunction}
    {functions : List ArtifactFunction} {entry : Address} (h : candidate.runtimeEntry ≠ entry) :
    logicalFunctionsAt (candidate :: functions) entry = logicalFunctionsAt functions entry := by
  unfold logicalFunctionsAt
  rw [filter_cons_of_neg (by simpa only [beq_iff_eq] using h)]

/-- The loop counts the functions that have not come earlier. -/
theorem indexedAliasCount_eq (entry : Address) (earlier candidates : List ArtifactFunction) :
    indexedAliasCount entry earlier candidates =
      (logicalFunctionsAt candidates entry \ logicalFunctionsAt earlier entry).card := by
  induction candidates generalizing earlier with
  | nil => exact (congrArg Finset.card (Finset.empty_sdiff _)).symm
  | cons candidate candidates ih =>
    rw [indexedAliasCount, ih, logicalFunctionsAt_concat]
    by_cases hentry : candidate.runtimeEntry = entry
    · have hany : (earlier.any fun previous => previous.runtimeEntry == entry &&
          sameSnapshotLogicalFunction previous candidate) = true ↔
            candidate.logical ∈ logicalFunctionsAt earlier entry := by
        simp only [any_eq_true, mem_logicalFunctionsAt, Bool.and_eq_true, beq_iff_eq,
          sameSnapshotLogicalFunction_iff]
      rw [if_neg (not_not.mpr hentry), logicalFunctionsAt_cons_of_eq hentry,
        logicalFunctionsAt_cons_of_eq hentry]
      by_cases hseen : candidate.logical ∈ logicalFunctionsAt earlier entry
      · rw [if_pos (hany.mpr hseen), Nat.zero_add, Finset.insert_eq_of_mem hseen,
          Finset.insert_sdiff_of_mem _ hseen]
      · rw [if_neg fun h => hseen (hany.mp h), Finset.insert_sdiff_of_notMem _ hseen,
          Finset.sdiff_insert, ← Finset.erase_insert_eq_erase, Nat.add_comm,
          Finset.card_erase_add_one (Finset.mem_insert_self _ _)]
    · rw [if_pos hentry, logicalFunctionsAt_cons_of_ne hentry,
        logicalFunctionsAt_cons_of_ne hentry]

/-- The number of logical functions at an entry. -/
theorem indexedAliasCount_card (entry : Address) (functions : List ArtifactFunction) :
    indexedAliasCount entry [] functions = (logicalFunctionsAt functions entry).card := by
  rw [indexedAliasCount_eq]
  exact congrArg Finset.card (Finset.sdiff_empty)

theorem logicalFunctionsAt_perm {functions others : List ArtifactFunction}
    (h : functions.Perm others) (entry : Address) :
    logicalFunctionsAt functions entry = logicalFunctionsAt others entry :=
  toFinset_eq_of_perm _ _ ((h.filter _).map _)

/-! ## The outcome -/

/-- The number of records that share an entry does not contradict the proof of the compiler. -/
def AliasesAllowed (bound : List ArtifactFunction) (record : ArtifactFunction) : Prop :=
  (record.codeIdentityProof = .unique →
    (logicalFunctionsAt bound record.runtimeEntry).card = 1) ∧
  (record.codeIdentityProof = .shared →
    (logicalFunctionsAt bound record.runtimeEntry).card ≤ record.physicalEntryAliasCount)

/-- The record with the number of its aliases. -/
def withAliases (bound : List ArtifactFunction) (record : ArtifactFunction) : ArtifactFunction :=
  let indexed := (logicalFunctionsAt bound record.runtimeEntry).card
  { record with entryAliasCount := max (max record.physicalEntryAliasCount 1) indexed }

theorem countAliases_eq_ok {bound : List ArtifactFunction} {record counted : ArtifactFunction} :
    countAliases bound record = .ok counted ↔
      AliasesAllowed bound record ∧ counted = withAliases bound record := by
  have hphysical : (if record.physicalEntryAliasCount = 0 then 1
      else record.physicalEntryAliasCount) = max record.physicalEntryAliasCount 1 := by
    split <;> omega
  unfold countAliases AliasesAllowed withAliases
  dsimp only
  rw [indexedAliasCount_card, hphysical, max_comm]
  split
  next hunique =>
    exact ⟨nofun, fun h => absurd (h.1.1 hunique.1) hunique.2⟩
  next hunique =>
    split
    next hshared =>
      exact ⟨nofun, fun h => absurd (h.1.2 hshared.1) (Nat.not_le.mpr hshared.2)⟩
    next hshared =>
      have hallowed : (record.codeIdentityProof = .unique →
            (logicalFunctionsAt bound record.runtimeEntry).card = 1) ∧
          (record.codeIdentityProof = .shared →
            (logicalFunctionsAt bound record.runtimeEntry).card ≤
              record.physicalEntryAliasCount) := by
        refine ⟨fun hproof => ?_, fun hproof => ?_⟩
        · by_contra hcount
          exact hunique ⟨hproof, hcount⟩
        · by_contra hcount
          exact hshared ⟨hproof, Nat.not_le.mp hcount⟩
      constructor
      · intro h
        exact ⟨hallowed, (Except.ok.inj h).symm⟩
      · rintro ⟨-, rfl⟩
        rfl

/-- The header of the index is the image's. -/
def HeaderMatches (image : BindingImage) (index : ArtifactSnapshotIndex) : Prop :=
  ¬(index.moduleName ≠ image.module.name ∨ index.buildId = "" ∨
    equalsIgnoreCaseAscii index.buildId image.module.buildId = false ∨
      index.snapshotHash = "" ∨ index.snapshotHash ≠ image.snapshot.snapshotHash ∨
        image.snapshot.matches image.module = false)

section Outcome
variable {image : BindingImage} {existing : Option ArtifactSnapshotIndex}
  {index result : ArtifactSnapshotIndex}

/-- The second loop. -/
theorem mapM_countAliases {bound records counted : List ArtifactFunction} :
    records.mapM (countAliases bound) = .ok counted ↔
      (∀ record ∈ records, AliasesAllowed bound record) ∧
        counted = records.map (withAliases bound) := by
  induction records generalizing counted with
  | nil =>
    constructor
    · intro h
      obtain rfl := Except.ok.inj h
      exact ⟨nofun, rfl⟩
    · rintro ⟨-, rfl⟩
      rfl
  | cons record records ih =>
    rw [mapM_cons]
    constructor
    · intro h
      obtain ⟨first, hfirst, h⟩ := of_bind_ok h
      obtain ⟨others, hothers, h⟩ := of_bind_ok h
      obtain rfl := Except.ok.inj h
      obtain ⟨hallowed, rfl⟩ := countAliases_eq_ok.mp hfirst
      obtain ⟨hrest, rfl⟩ := ih.mp hothers
      exact ⟨forall_mem_cons.mpr ⟨hallowed, hrest⟩, rfl⟩
    · rintro ⟨hallowed, rfl⟩
      obtain ⟨hfirst, hrest⟩ := forall_mem_cons.mp hallowed
      rw [countAliases_eq_ok.mpr ⟨hfirst, rfl⟩]
      show (records.mapM (countAliases bound) >>= fun others => _) = _
      rw [ih.mpr ⟨hrest, rfl⟩]
      rfl

/-- When an index is bound, and to what. -/
theorem bind_eq_ok_iff :
    bindArtifactSnapshotIndex image index existing = .ok result ↔
      index.functions ≠ [] ∧ HeaderMatches image index ∧ ∃ bound,
        List.Forall₂ (fun record result => bindRecord image existing index record = .ok result)
          index.functions bound ∧ ProofsAgree bound ∧
        (∀ record ∈ bound, AliasesAllowed bound record) ∧
          result = { index with functions := bound.map (withAliases bound) } := by
  unfold bindArtifactSnapshotIndex
  split
  next hheader =>
    refine ⟨nofun, fun h => ?_⟩
    obtain ⟨hnonempty, hmatches, -⟩ := h
    exact absurd hmatches (not_not.mpr (hheader.resolve_left hnonempty))
  next hheader =>
    obtain ⟨hnonempty, hmatches⟩ := not_or.mp hheader
    constructor
    · intro h
      obtain ⟨bound, hbound, h⟩ := of_bind_ok h
      obtain ⟨functions, hfunctions, h⟩ := of_bind_ok h
      obtain rfl := Except.ok.inj h
      obtain ⟨hrecords, hagree, -⟩ := bindRecords_eq_ok.mp hbound
      obtain ⟨hallowed, rfl⟩ := mapM_countAliases.mp hfunctions
      exact ⟨hnonempty, hmatches, bound, hrecords, hagree, hallowed, rfl⟩
    · rintro ⟨-, -, bound, hrecords, hagree, hallowed, rfl⟩
      have hunknown : ∀ record ∈ bound, ∀ evidence,
          (none : Option (DartPlantCodeIdentityProof × Nat)) = some evidence →
            evidence = record.evidence := nofun
      rw [bindRecords_eq_ok.mpr ⟨hrecords, hagree, hunknown⟩]
      show (bound.mapM (countAliases bound) >>= fun functions => _) = _
      rw [mapM_countAliases.mpr ⟨hallowed, rfl⟩]
      rfl

/-- The aliases do not change where a record is bound. -/
theorem logicalFunctionsAt_withAliases (bound records : List ArtifactFunction) (entry : Address) :
    logicalFunctionsAt (records.map (withAliases bound)) entry =
      logicalFunctionsAt records entry := by
  ext name
  rw [mem_logicalFunctionsAt, mem_logicalFunctionsAt]
  constructor
  · rintro ⟨counted, hcounted, hentry, hlogical⟩
    obtain ⟨record, hrecord, rfl⟩ := mem_map.mp hcounted
    exact ⟨record, hrecord, hentry, hlogical⟩
  · rintro ⟨record, hrecord, hentry, hlogical⟩
    exact ⟨_, mem_map_of_mem hrecord, hentry, hlogical⟩

/-- What holds of the records of a bound index. -/
structure AliasFacts (image : BindingImage) (functions : List ArtifactFunction) : Prop where
  inside : ∀ record ∈ functions, BoundInside image record
  proofs : ProofsAgree functions
  aliases : ∀ record ∈ functions, record.entryAliasCount =
    max (max record.physicalEntryAliasCount 1)
      (logicalFunctionsAt functions record.runtimeEntry).card
  allowed : ∀ record ∈ functions, AliasesAllowed functions record

theorem bind_facts (h : bindArtifactSnapshotIndex image index existing = .ok result) :
    AliasFacts image result.functions := by
  obtain ⟨-, -, bound, hrecords, hagree, hallowed, rfl⟩ := bind_eq_ok_iff.mp h
  constructor
  case inside =>
    rw [forall_mem_map]
    intro record hrecord
    obtain ⟨source, -, hbound⟩ := FreshNames.exists_of_mem_right hrecords hrecord
    obtain ⟨⟨hexecutable, hstart, hends⟩, -, -⟩ := bindRecord_eq_ok hbound
    exact ⟨hexecutable, hstart, hends⟩
  case proofs =>
    intro left hleft right hright hentry
    obtain ⟨first, hfirst, rfl⟩ := mem_map.mp hleft
    obtain ⟨second, hsecond, rfl⟩ := mem_map.mp hright
    exact hagree first hfirst second hsecond hentry
  case aliases =>
    rw [forall_mem_map]
    intro record _
    rw [logicalFunctionsAt_withAliases]
    rfl
  case allowed =>
    rw [forall_mem_map]
    intro record hrecord
    unfold AliasesAllowed
    rw [logicalFunctionsAt_withAliases]
    exact hallowed record hrecord

/-! ## Records in another order -/

/-- The index with its records in another order. -/
def ArtifactSnapshotIndex.reordered (index : ArtifactSnapshotIndex)
    (functions : List ArtifactFunction) : ArtifactSnapshotIndex :=
  { index with functions := functions }

theorem withAliases_perm {bound others : List ArtifactFunction} (h : bound.Perm others) :
    withAliases bound = withAliases others := by
  ext record
  unfold withAliases
  rw [logicalFunctionsAt_perm h]

/-- An index that is bound is bound in every other order of its records, to the same records. -/
theorem bind_perm {functions : List ArtifactFunction} (hperm : index.functions.Perm functions)
    (h : bindArtifactSnapshotIndex image index existing = .ok result) :
    ∃ others, bindArtifactSnapshotIndex image (index.reordered functions) existing =
        .ok (result.reordered others) ∧ result.functions.Perm others := by
  obtain ⟨hnonempty, hmatches, bound, hrecords, hagree, hallowed, rfl⟩ := bind_eq_ok_iff.mp h
  obtain ⟨others, hothers, hbound⟩ := perm_comp_forall₂ hperm.symm hrecords
  have hmem (record : ArtifactFunction) : record ∈ others → record ∈ bound := hbound.mem_iff.mp
  refine ⟨others.map (withAliases others), bind_eq_ok_iff.mpr ⟨?_, hmatches, others, hothers,
    ?_, ?_, rfl⟩, ?_⟩
  · intro hempty
    exact hnonempty (perm_nil.mp (hempty ▸ hperm))
  · intro left hleft right hright
    exact hagree left (hmem left hleft) right (hmem right hright)
  · intro record hrecord
    unfold AliasesAllowed
    rw [logicalFunctionsAt_perm hbound]
    exact hallowed record (hmem record hrecord)
  · rw [withAliases_perm hbound]
    exact (hbound.map _).symm

/-! ## An index that was bound before -/

/-- The indexes that have been bound to the image, from nothing or over one of them. -/
inductive BoundEarlier (image : BindingImage) : ArtifactSnapshotIndex → Prop where
  | fresh {index bound : ArtifactSnapshotIndex} :
      bindArtifactSnapshotIndex image index none = .ok bound → BoundEarlier image bound
  | again {existing index bound : ArtifactSnapshotIndex} : BoundEarlier image existing →
      bindArtifactSnapshotIndex image index (some existing) = .ok bound → BoundEarlier image bound

/-- The entry of a record is the one that the image gives for it. -/
def EntryCurrent (image : BindingImage) (record : ArtifactFunction) : Prop :=
  locateEntry image none record = .ok record.runtimeEntry

/-- Where an entry is found, only the address, the size and the fingerprint of the record count. -/
theorem locateEntry_none_congr {record other : ArtifactFunction}
    (hva : record.entryVa = other.entryVa) (hsize : record.codeSize = other.codeSize)
    (hfingerprint : record.fingerprint = other.fingerprint) :
    locateEntry image none record = locateEntry image none other := by
  unfold locateEntry
  rw [hva, hsize, hfingerprint]

section
variable (hcurrent : ∀ old ∈ existing.elim [] (·.functions), EntryCurrent image old)
include hcurrent

/-- An earlier record lends the entry that would be found. -/
theorem locateEntry_reusable (record : ArtifactFunction) :
    locateEntry image (reusableRecord existing index record) record =
      locateEntry image none record := by
  cases hfound : reusableRecord existing index record with
  | none => rfl
  | some old =>
    unfold reusableRecord at hfound
    obtain ⟨earlier, rfl, hrecord⟩ := Option.bind_eq_some_iff.mp hfound
    split at hrecord
    · have hold := hcurrent old (mem_of_find?_eq_some hrecord)
      have hsame := List.find?_some hrecord
      simp only [Bool.and_eq_true, beq_iff_eq] at hsame
      obtain ⟨⟨⟨⟨⟨⟨hva, hsize⟩, -⟩, -⟩, -⟩, hfingerprint⟩, -⟩ := hsame
      have hentry : locateEntry image none record = .ok old.runtimeEntry :=
        (locateEntry_none_congr hva.symm hsize.symm hfingerprint.symm).trans hold
      have hexecutable := locateEntry_executable hentry
      rw [hentry]
      unfold locateEntry
      dsimp only
      rw [if_neg (Bool.not_eq_false _ ▸ hexecutable)]
    · cases hrecord

theorem bindRecord_reusable (record : ArtifactFunction) :
    bindRecord image existing index record = bindRecord image none index record := by
  unfold bindRecord
  rw [locateEntry_reusable hcurrent]
  rfl

theorem bindRecords_reusable (proofs : EntryProofs) (records : List ArtifactFunction) :
    bindRecords image existing index proofs records =
      bindRecords image none index proofs records := by
  induction records generalizing proofs with
  | nil => rfl
  | cons record records ih =>
    unfold bindRecords
    rw [bindRecord_reusable hcurrent]
    simp only [ih]

theorem bind_reusable : bindArtifactSnapshotIndex image index existing =
      bindArtifactSnapshotIndex image index none := by
  unfold bindArtifactSnapshotIndex
  rw [bindRecords_reusable hcurrent]

/-- A binding over records with current entries leaves records with current entries. -/
theorem bind_current (h : bindArtifactSnapshotIndex image index existing = .ok result) :
    ∀ record ∈ result.functions, EntryCurrent image record := by
  obtain ⟨-, -, bound, hrecords, -, -, rfl⟩ := bind_eq_ok_iff.mp h
  rw [forall_mem_map]
  intro record hrecord
  obtain ⟨source, -, hbound⟩ := FreshNames.exists_of_mem_right hrecords hrecord
  obtain ⟨-, hshape, hentry⟩ := bindRecord_eq_ok hbound
  rw [locateEntry_reusable hcurrent] at hentry
  have hsame : locateEntry image none (withAliases bound record) =
      locateEntry image none source := by
    rw [hshape]
    exact locateEntry_none_congr rfl rfl rfl
  exact hsame.trans hentry

end

theorem BoundEarlier.current {earlier : ArtifactSnapshotIndex} (h : BoundEarlier image earlier) :
    ∀ record ∈ earlier.functions, EntryCurrent image record := by
  induction h with
  | fresh hbound => exact @bind_current image none _ _ nofun hbound
  | @again earlier _ _ _ hbound ih =>
    exact @bind_current image (some earlier) _ _ ih hbound

end Outcome

/-- A bound index has exact aliases, the order of its records does not matter, and an index that was
bound to the image before changes nothing. -/
theorem artifact_binding_exact (image : BindingImage) (index : ArtifactSnapshotIndex)
    (existing : Option ArtifactSnapshotIndex) :
    (∀ result, bindArtifactSnapshotIndex image index existing = .ok result →
      AliasFacts image result.functions) ∧
    (∀ functions, index.functions.Perm functions →
      ((∃ result, bindArtifactSnapshotIndex image index existing = .ok result) ↔
        ∃ result, bindArtifactSnapshotIndex image (index.reordered functions) existing =
          .ok result) ∧
      ∀ result other, bindArtifactSnapshotIndex image index existing = .ok result →
        bindArtifactSnapshotIndex image (index.reordered functions) existing = .ok other →
          result.functions.Perm other.functions) ∧
    ∀ earlier, BoundEarlier image earlier →
      bindArtifactSnapshotIndex image index (some earlier) =
        bindArtifactSnapshotIndex image index none := by
  refine ⟨fun result hresult => bind_facts hresult, fun functions hperm => ⟨⟨?_, ?_⟩, ?_⟩, ?_⟩
  · rintro ⟨result, hresult⟩
    obtain ⟨others, hothers, -⟩ := bind_perm hperm hresult
    exact ⟨_, hothers⟩
  · rintro ⟨result, hresult⟩
    have hback : (index.reordered functions).functions.Perm index.functions := hperm.symm
    obtain ⟨others, hothers, -⟩ := bind_perm hback hresult
    exact ⟨_, hothers⟩
  · intro result other hresult hother
    obtain ⟨others, hothers, hsame⟩ := bind_perm hperm hresult
    obtain rfl := Except.ok.inj (hothers.symm.trans hother)
    exact hsame
  · intro earlier hearlier
    exact bind_reusable hearlier.current

/-- Two functions of one library that share their code. -/
def sharedEntryRecord (functionName : String) : ArtifactFunction :=
  { libraryUri := "package:app/main.dart", className := "", functionName := functionName
    signature := "() => void", entryKind := 0, entryVa := 0x1010, codeSize := 0x20
    codeSectionVa := 0x1000, fingerprint := "5e", codePayloadVa := 0x1000, codePayloadStart := 0
    codeInstructionsLength := 0x30, runtimeEntry := 0, codeEntry := 0, entryAliasCount := 0
    physicalEntryAliasCount := 2, codeIdentityProof := .shared, functionKind := 0
    closureCallEntryOnly := false }

def sharedEntryIndex : ArtifactSnapshotIndex :=
  { moduleName := "libapp.so", buildId := "a1", snapshotHash := "c0"
    functions := [sharedEntryRecord "first", sharedEntryRecord "second"] }

def sharedEntryImage : BindingImage :=
  { snapshot :=
      { moduleName := "libapp.so", modulePath := "/data/libapp.so", moduleBuildId := "a1"
        snapshotHash := "c0", snapshotFeatures := "", profileName := ""
        isolateInstructionsVa := 0x1000, isolateInstructionsSize := 0x100
        isolateInstructionsRuntime := 0x7000, compressedPointers := true
        deferredProgramHash := none }
    module :=
      { name := "libapp.so", path := "/data/libapp.so", buildId := "a1", loadBias := 0x6000
        executableRanges := [⟨0x7000, 0x8000, 0, 0x1000, 0x1000⟩] }
    fingerprintCodeWithManagedPatches := fun _ _ => "5e"
    findRuntimeProfileBySnapshot := fun _ _ => none }

/-- Both records are bound to one entry, which two functions share, and a second binding over the
first one is the same. -/
theorem artifact_binding_exact_sharedEntry :
    ∃ result, bindArtifactSnapshotIndex sharedEntryImage sharedEntryIndex none = .ok result ∧
      (∀ record ∈ result.functions, record.entryAliasCount = 2) ∧
      AliasFacts sharedEntryImage result.functions ∧
      bindArtifactSnapshotIndex sharedEntryImage sharedEntryIndex (some result) = .ok result := by
  have hcounts : (bindArtifactSnapshotIndex sharedEntryImage sharedEntryIndex none).toOption.map
      (fun result => result.functions.map (·.entryAliasCount)) = some [2, 2] := by
    decide +kernel
  obtain ⟨hfacts, -, hagain⟩ := artifact_binding_exact sharedEntryImage sharedEntryIndex none
  cases hbound : bindArtifactSnapshotIndex sharedEntryImage sharedEntryIndex none with
  | error failure =>
    rw [hbound] at hcounts
    cases hcounts
  | ok result =>
    rw [hbound] at hcounts
    have hlist : result.functions.map (·.entryAliasCount) = [2, 2] := Option.some.inj hcounts
    refine ⟨result, rfl, ?_, hfacts result hbound, ?_⟩
    · intro record hrecord
      have hcount : record.entryAliasCount ∈ [2, 2] :=
        hlist ▸ mem_map_of_mem (f := (·.entryAliasCount)) hrecord
      simpa using hcount
    · rw [hagain result (.fresh hbound), hbound]

end DartPlant
