import DartPlant.Vm.AbiSelection

/-! # Fair selections

Whether an ABI is selected, which one, and the rows it is selected from depend on which rows passed
and not on their order; so does the row that a consumer of several capabilities gets.  Who stands
for a selection is a row that passed, and the preferred one if it did.

The last is what the selection of a list of domains misses: it takes the first row, where its
sibling for a mask, and the selection of a capability, take the core representative.  So it is fair
exactly when the core representative is not selected from or comes first.
-/

namespace DartPlant
open SoleKey CapabilityBindingSet

section Fair
variable {Row : Type} [DecidableEq Row] (keys : AbiKeys Row)

/-! ## What is asked -/

/-- The rows, each with the outcome of its probe, and what is asked about them. -/
structure AbiQuestion (Row : Type) where
  diagnostics : List (CandidateDiagnostic Row)
  domain : AbiDomain
  rows : List (Row × Bool)
  representative : Option Row
  domains : List AbiDomain
  domainMask : AbiDomainMask
  capability : VmCapability
  /-- The bindings made, each with the rows that pass its proof. -/
  proofs : List (VmCapability × (Row → Bool))
  requested : List VmCapability

/-- Bind the selection among the candidates that pass. -/
def bindProof (candidates : AbiCandidateSet Row) (bindings : CapabilityBindingSet Row)
    (proof : VmCapability × (Row → Bool)) : CapabilityBindingSet Row :=
  (bindings.bindSelection proof.1 (selectCapabilityAbiSet keys.capabilityKey candidates proof.1
    (candidates.profiles.map proof.2))).getD bindings

namespace AbiQuestion
variable (question : AbiQuestion Row)

def candidates : AbiCandidateSet Row := ⟨question.rows.map Prod.fst, question.representative⟩

def compatible : List Bool := question.rows.map Prod.snd

def unique : CandidateSelection Row :=
  selectUniquePassingCandidate keys question.diagnostics question.domain

def ofList : DomainSelectionKeys Row :=
  selectDomainAbiSetOfList keys question.candidates question.domains question.compatible

def ofMask : DomainSelectionKeys Row :=
  selectDomainAbiSet keys question.candidates question.domainMask question.compatible

def ofCapability : DomainSetSelection Row :=
  selectCapabilityAbiSet keys.capabilityKey question.candidates question.capability
    question.compatible

def bindings : CapabilityBindingSet Row :=
  question.proofs.foldl (bindProof keys question.candidates) []

def resolved : Option Row :=
  resolveCapabilityConsumerProfile (question.bindings keys) question.requested

end AbiQuestion

/-! ## What a fair answer is -/

/-- The rows that passed and have a key select exactly when they have one key; a row among them
stands for the selection, and a preferred one if there is one. -/
structure Selects {α : Type} (key : α → String) (passing : List α) (preferred : α → Prop)
    (passes : Bool) (abi : String) (representative : Option α) : Prop where
  passes_iff : passes = true ↔ ∃! abi, ∃ row ∈ passing, key row ≠ "" ∧ key row = abi
  stands : passes = true → ∃ row ∈ passing, representative = some row ∧ key row ≠ "" ∧
    key row = abi ∧ ((∃ other ∈ passing, key other ≠ "" ∧ preferred other) → preferred row)

/-- The row is selected for every capability. -/
def Shared (bindings : CapabilityBindingSet Row) (requested : List VmCapability) (row : Row) :
    Prop :=
  ∀ capability ∈ requested, ∃ binding, bindings.findBinding capability = some binding ∧
    row ∈ binding.selectedRows

namespace AbiQuestion
variable (question : AbiQuestion Row)

/-- The rows that passed. -/
def passing : List Row := (question.rows.filter fun row => row.2).map Prod.fst

def listKey (row : Row) : String := (keys.identity row).appendIds "" question.domains

def maskKey (row : Row) : String := (keys.identity row).buildDomainAbiKey question.domainMask

def capabilityKey (row : Row) : String := keys.capabilityKey row question.capability

def uniqueKey : String :=
  ((question.unique keys).selected.map fun candidate => candidate.abiId keys question.domain).getD ""

/-- The same rows in another order. -/
def Reorders (other : AbiQuestion Row) : Prop :=
  other.diagnostics.Perm question.diagnostics ∧ other.rows.Perm question.rows ∧
    other.domain = question.domain ∧ other.domains = question.domains ∧
    other.domainMask = question.domainMask ∧ other.capability = question.capability ∧
    other.representative = question.representative

/-- The two questions are answered alike, but for who stands for an answer. -/
structure SameAnswers (other : AbiQuestion Row) : Prop where
  unique : (other.unique keys).selected.isSome = (question.unique keys).selected.isSome
  uniqueKey : other.uniqueKey keys = question.uniqueKey keys
  ofList : (other.ofList keys).passed = (question.ofList keys).passed
  ofListKey : (other.ofList keys).abiDomainKey = (question.ofList keys).abiDomainKey
  ofMask : (other.ofMask keys).passed = (question.ofMask keys).passed
  ofMaskKey : (other.ofMask keys).abiDomainKey = (question.ofMask keys).abiDomainKey
  ofCapability : (other.ofCapability keys).passed = (question.ofCapability keys).passed
  ofCapabilityKey :
    (other.ofCapability keys).abiDomainKey = (question.ofCapability keys).abiDomainKey
  selectedRows : (other.ofCapability keys).selectedRows.Perm (question.ofCapability keys).selectedRows

/-- The question is answered in a way that no order decides. -/
structure Fair : Prop where
  unique : Selects (fun candidate => candidate.abiId keys question.domain)
    (question.diagnostics.filter fun candidate => candidate.passed)
    (fun candidate => candidate.snapshotHashMatch = true)
    (question.unique keys).selected.isSome (question.uniqueKey keys) (question.unique keys).selected
  ofList : Selects (question.listKey keys) question.passing
    (fun row => question.representative = some row) (question.ofList keys).passed
    (question.ofList keys).abiDomainKey (question.ofList keys).representative
  ofMask : Selects (question.maskKey keys) question.passing
    (fun row => question.representative = some row) (question.ofMask keys).passed
    (question.ofMask keys).abiDomainKey (question.ofMask keys).representative
  ofCapability : Selects (question.capabilityKey keys) question.passing
    (fun row => question.representative = some row) (question.ofCapability keys).passed
    (question.ofCapability keys).abiDomainKey (question.ofCapability keys).representative
  selectedRows : (question.ofCapability keys).passed = true →
    (question.ofCapability keys).selectedRows =
      question.passing.filter fun row => question.capabilityKey keys row != ""
  reordered : ∀ other, question.Reorders other → question.SameAnswers keys other
  resolves : (question.resolved keys).isSome = true ↔ question.requested ≠ [] ∧
    ∃ row, Shared (question.bindings keys) question.requested row
  shared : ∀ row, question.resolved keys = some row →
    Shared (question.bindings keys) question.requested row
  requested : ∀ requested, requested.Perm question.requested →
    { question with requested }.resolved keys = question.resolved keys
  bound : ∀ proofs, proofs.Perm question.proofs → (question.proofs.map Prod.fst).Nodup →
    { question with proofs }.resolved keys = question.resolved keys

/-- A core representative that a list of domains selects from comes first. -/
def CoreFirst : Prop :=
  let rows := question.passing.filter fun row => question.listKey keys row != ""
  (∃! abi, ∃ row ∈ rows, question.listKey keys row = abi) →
    ∀ core ∈ rows, question.representative = some core → rows.head? = some core

end AbiQuestion

end Fair

/-! ## One key among the rows that passed -/

section Sole
variable {α : Type} {key : α → String} {passing passing' : List α} {preferred : α → Prop}
  {abi : String} {representative : Option α}

theorem exists_sole_iff :
    (∃ abi, ((passing.filter fun row => key row != "").map key).dedup = [abi]) ↔
      ∃! abi, ∃ row ∈ passing, key row ≠ "" ∧ key row = abi := by
  rw [dedup_eq_singleton_iff_existsUnique]
  simp only [List.mem_filter, bne_iff_ne, and_assoc]

theorem filter_sole (hsole : ((passing.filter fun row => key row != "").map key).dedup = [abi]) :
    ((passing.filter fun row => key row != "").filter fun row => key row == abi) =
      passing.filter fun row => key row != "" := by
  rw [List.filter_eq_self]
  exact fun row hrow => beq_iff_eq.mpr ((dedup_eq_singleton.mp hsole).2 row hrow)

theorem selects_of_sole
    (hsole : ((passing.filter fun row => key row != "").map key).dedup = [abi])
    (hstands : ∃ row ∈ passing.filter fun row => key row != "", representative = some row ∧
      ((∃ other ∈ passing.filter fun row => key row != "", preferred other) → preferred row)) :
    Selects key passing preferred true abi representative := by
  refine ⟨⟨fun _ => exists_sole_iff.mp ⟨abi, hsole⟩, fun _ => rfl⟩, fun _ => ?_⟩
  obtain ⟨row, hrow, hstands, hprefers⟩ := hstands
  have hkey := (dedup_eq_singleton.mp hsole).2 row hrow
  obtain ⟨hpassed, hkeyed⟩ := List.mem_filter.mp hrow
  refine ⟨row, hpassed, hstands, bne_iff_ne.mp hkeyed, hkey, fun ⟨other, hother, hne, hpref⟩ => ?_⟩
  exact hprefers ⟨other, List.mem_filter.mpr ⟨hother, bne_iff_ne.mpr hne⟩, hpref⟩

theorem selects_of_not_sole
    (hmany : ∀ abi, ((passing.filter fun row => key row != "").map key).dedup ≠ [abi]) :
    Selects key passing preferred false abi representative := by
  refine ⟨⟨fun h => Bool.noConfusion h, fun h => ?_⟩, fun h => Bool.noConfusion h⟩
  obtain ⟨abi, hsole⟩ := exists_sole_iff.mpr h
  exact absurd hsole (hmany abi)

theorem sole_perm (h : passing'.Perm passing) :
    ((passing'.filter fun row => key row != "").map key).dedup = [abi] ↔
      ((passing.filter fun row => key row != "").map key).dedup = [abi] :=
  dedup_eq_singleton_perm (h.filter _)

end Sole

/-! ## The selections -/

section Selections
variable {Row : Type} {keys : AbiKeys Row}

theorem passingRows_unzip (rows : List (Row × Bool)) :
    passingRows (rows.map Prod.fst) (rows.map Prod.snd) =
      (rows.filter fun row => row.2).map Prod.fst := by
  have hzip : (rows.map Prod.fst).zip (rows.map Prod.snd) = rows := by
    rw [← List.unzip_fst, ← List.unzip_snd, List.zip_unzip]
  rw [passingRows, hzip]

theorem keepCandidate_prefers {rows : List (CandidateDiagnostic Row)} (hne : rows ≠ []) :
    ∃ row ∈ rows, keep ReplacesCandidate rows = some row ∧
      ((∃ other ∈ rows, other.snapshotHashMatch = true) → row.snapshotHashMatch = true) := by
  refine keep_prefers (fun _ => trivial) ?_ ?_ hne
  · intro chosen row hnot hmatch
    exact ⟨Bool.eq_false_iff.mpr hnot, hmatch⟩
  · intro _ _ _ hreplaces
    exact hreplaces.2

section Domains
variable {key : Row → String} {pick : List Row → Option Row} {rows rows' : List (Row × Bool)}
  {preferred : Row → Prop} {abi : String}

/-- The rows that passed and have a key. -/
def keyedRows (key : Row → String) (rows : List (Row × Bool)) : List Row :=
  ((rows.filter fun row => row.2).map Prod.fst).filter fun row => key row != ""

theorem selectDomainSet_sole (pick : List Row → Option Row)
    (hsole : ((keyedRows key rows).map key).dedup = [abi]) :
    selectDomainSet key pick (rows.map Prod.fst) (rows.map Prod.snd) =
      { representative := pick (keyedRows key rows)
        abiDomainKey := abi
        compatibleRows := (keyedRows key rows).length
        distinctDomainSets := 1 } := by
  rw [selectDomainSet, if_neg (by rw [List.length_map, List.length_map, ne_eq, not_not]),
    passingRows_unzip]
  rw [keyedRows] at hsole
  simp only [hsole, filter_sole hsole, keyedRows]

theorem selectDomainSet_not_sole (pick : List Row → Option Row)
    (hmany : ∀ abi, ((keyedRows key rows).map key).dedup ≠ [abi]) :
    (selectDomainSet key pick (rows.map Prod.fst) (rows.map Prod.snd)).passed = false ∧
      (selectDomainSet key pick (rows.map Prod.fst) (rows.map Prod.snd)).abiDomainKey = "" := by
  rw [selectDomainSet, if_neg (by rw [List.length_map, List.length_map, ne_eq, not_not]),
    passingRows_unzip]
  dsimp only
  split
  next abi hsole => exact absurd hsole (hmany abi)
  next abis _ => exact ⟨rfl, rfl⟩

theorem selectDomainSet_selects
    (hpick : ∀ abi, ((keyedRows key rows).map key).dedup = [abi] → ∃ row ∈ keyedRows key rows,
      pick (keyedRows key rows) = some row ∧
        ((∃ other ∈ keyedRows key rows, preferred other) → preferred row)) :
    let selection := selectDomainSet key pick (rows.map Prod.fst) (rows.map Prod.snd)
    Selects key ((rows.filter fun row => row.2).map Prod.fst) preferred selection.passed
      selection.abiDomainKey selection.representative := by
  intro selection
  by_cases hsole : ∃ abi, ((keyedRows key rows).map key).dedup = [abi]
  · obtain ⟨abi, hsole⟩ := hsole
    obtain ⟨row, hrow, hpicks, hprefers⟩ := hpick abi hsole
    have hselection := selectDomainSet_sole pick hsole
    have hpassed : selection.passed = true := by
      simp only [selection, hselection, DomainSelectionKeys.passed, hpicks, Option.isSome_some,
        BEq.rfl, Bool.and_self]
    rw [hpassed]
    simp only [selection, hselection]
    exact selects_of_sole hsole ⟨row, hrow, hpicks, hprefers⟩
  · have hmany := not_exists.mp hsole
    have hpassed : selection.passed = false := (selectDomainSet_not_sole pick hmany).1
    rw [hpassed]
    exact selects_of_not_sole hmany

theorem selectDomainSet_perm (hpick : ∀ {rows : List Row}, rows ≠ [] → (pick rows).isSome = true)
    (h : rows'.Perm rows) :
    let selection := selectDomainSet key pick (rows.map Prod.fst) (rows.map Prod.snd)
    let other := selectDomainSet key pick (rows'.map Prod.fst) (rows'.map Prod.snd)
    other.passed = selection.passed ∧ other.abiDomainKey = selection.abiDomainKey := by
  intro selection other
  have hpassing : ((rows'.filter fun row => row.2).map Prod.fst).Perm
      ((rows.filter fun row => row.2).map Prod.fst) := (h.filter _).map _
  by_cases hsole : ∃ abi, ((keyedRows key rows).map key).dedup = [abi]
  · obtain ⟨abi, hsole⟩ := hsole
    have hsole' : ((keyedRows key rows').map key).dedup = [abi] := (sole_perm hpassing).mpr hsole
    have hpicks := hpick (dedup_eq_singleton.mp hsole).1
    have hpicks' := hpick (dedup_eq_singleton.mp hsole').1
    simp only [selection, other, selectDomainSet_sole pick hsole,
      selectDomainSet_sole pick hsole',
      DomainSelectionKeys.passed, hpicks, hpicks', and_self]
  · have hmany := not_exists.mp hsole
    have hmany' (abi : String) : ((keyedRows key rows').map key).dedup ≠ [abi] := by
      intro hsole'
      exact hmany abi ((sole_perm hpassing).mp hsole')
    obtain ⟨hpassed, hkey⟩ := selectDomainSet_not_sole pick hmany
    obtain ⟨hpassed', hkey'⟩ := selectDomainSet_not_sole pick hmany'
    exact ⟨hpassed'.trans hpassed.symm, hkey'.trans hkey.symm⟩

theorem not_sole_of_no_key (hnone : ∀ row, key row = "") :
    ((keyedRows key rows).map key).dedup ≠ [abi] := by
  have hnil : keyedRows key rows = [] := by
    rw [keyedRows, List.filter_eq_nil_iff]
    intro row _ hkeyed
    exact bne_iff_ne.mp hkeyed (hnone row)
  rw [hnil]
  exact nofun

end Domains

section Capabilities
variable [DecidableEq Row] {rows rows' : List (Row × Bool)} {capability : VmCapability}
  {abi : String} {representative : Option Row}

variable (keys capability rows representative) in
/-- The selection of a capability among rows with their outcomes. -/
def selectAmong : DomainSetSelection Row :=
  selectCapabilityAbiSet keys.capabilityKey ⟨rows.map Prod.fst, representative⟩ capability
    (rows.map Prod.snd)

/-- The core representative stands for the rows, if it is one of them. -/
theorem pickRepresentative_prefers (preferred : Option Row) {rows : List Row} (hne : rows ≠ []) :
    ∃ row ∈ rows, pickRepresentative preferred rows = some row ∧
      ((∃ other ∈ rows, preferred = some other) → preferred = some row) := by
  have hkeep : pickRepresentative preferred rows =
      keep (fun chosen row => chosen = none ∨ some row = preferred) rows := rfl
  rw [hkeep]
  refine keep_prefers (fun _ => .inl rfl) ?_ ?_ hne
  · intro _ row _ hpreferred
    exact .inr hpreferred.symm
  · intro _ row _ hreplaces
    exact (hreplaces.resolve_left nofun).symm

theorem selectAmong_sole (representative : Option Row)
    (hsole : ((keyedRows (keys.capabilityKey · capability) rows).map
      (keys.capabilityKey · capability)).dedup = [abi]) :
    let selection := selectAmong keys rows capability representative
    selection.representative = pickRepresentative representative
        (keyedRows (keys.capabilityKey · capability) rows) ∧
      selection.abiDomainKey = abi ∧ selection.distinctDomainSets = 1 ∧
      selection.selectedRows = keyedRows (keys.capabilityKey · capability) rows := by
  have hcapability : capability ≠ kCapabilityNone := by
    intro hnone
    subst hnone
    exact not_sole_of_no_key keys.noCapability hsole
  have hlength : (rows.map Prod.snd).length = (rows.map Prod.fst).length := by
    rw [List.length_map, List.length_map]
  have hpassing := passingRows_unzip rows
  rw [passingRows] at hpassing
  intro selection
  simp only [selection, selectAmong, selectCapabilityAbiSet,
    if_neg (not_or.mpr ⟨hcapability, not_not.mpr hlength⟩), hpassing]
  rw [keyedRows] at hsole
  split
  next key hkey =>
    obtain rfl : abi = key := List.singleton_inj.mp (hsole.symm.trans hkey)
    simp only [filter_sole hsole, keyedRows, and_self]
  next hmany => exact absurd hsole (hmany abi)

theorem selectAmong_not_sole (representative : Option Row)
    (hmany : ∀ abi, ((keyedRows (keys.capabilityKey · capability) rows).map
      (keys.capabilityKey · capability)).dedup ≠ [abi]) :
    let selection := selectAmong keys rows capability representative
    selection.passed = false ∧ selection.abiDomainKey = "" ∧ selection.selectedRows = [] := by
  have hpassing := passingRows_unzip rows
  rw [passingRows] at hpassing
  intro selection
  simp only [selection, selectAmong, selectCapabilityAbiSet, hpassing]
  split
  · exact ⟨rfl, rfl, rfl⟩
  · split
    next key hkey => exact absurd hkey (hmany key)
    next keys _ => exact ⟨rfl, rfl, rfl⟩

theorem selectAmong_selects :
    let selection := selectAmong keys rows capability representative
    Selects (keys.capabilityKey · capability) ((rows.filter fun row => row.2).map Prod.fst)
      (fun row => representative = some row) selection.passed selection.abiDomainKey
      selection.representative := by
  intro selection
  by_cases hsole : ∃ abi, ((keyedRows (keys.capabilityKey · capability) rows).map
      (keys.capabilityKey · capability)).dedup = [abi]
  · obtain ⟨abi, hsole⟩ := hsole
    obtain ⟨hrepresentative, hkey, hdistinct, -⟩ :=
      selectAmong_sole representative hsole
    obtain ⟨row, hrow, hpicks, hprefers⟩ :=
      pickRepresentative_prefers representative (dedup_eq_singleton.mp hsole).1
    have hpassed : selection.passed = true := by
      simp only [selection, DomainSetSelection.passed, hrepresentative, hdistinct, hpicks,
        Option.isSome_some, BEq.rfl, Bool.and_self]
    rw [hpassed, hkey, hrepresentative]
    exact selects_of_sole hsole ⟨row, hrow, hpicks, hprefers⟩
  · have hmany := not_exists.mp hsole
    have hpassed : selection.passed = false := (selectAmong_not_sole representative hmany).1
    rw [hpassed]
    exact selects_of_not_sole hmany

/-- A selection that passed takes every row that passed and has a key. -/
theorem selectAmong_rows (hpassed : (selectAmong keys rows capability representative).passed = true) :
    (selectAmong keys rows capability representative).selectedRows =
      keyedRows (keys.capabilityKey · capability) rows := by
  by_cases hsole : ∃ abi, ((keyedRows (keys.capabilityKey · capability) rows).map
      (keys.capabilityKey · capability)).dedup = [abi]
  · obtain ⟨abi, hsole⟩ := hsole
    exact (selectAmong_sole representative hsole).2.2.2
  · rw [(selectAmong_not_sole representative (not_exists.mp hsole)).1] at hpassed
    cases hpassed

theorem selectAmong_perm (h : rows'.Perm rows) :
    let selection := selectAmong keys rows capability representative
    let other := selectAmong keys rows' capability representative
    other.passed = selection.passed ∧ other.abiDomainKey = selection.abiDomainKey ∧
      other.selectedRows.Perm selection.selectedRows := by
  intro selection other
  have hpassing : ((rows'.filter fun row => row.2).map Prod.fst).Perm
      ((rows.filter fun row => row.2).map Prod.fst) := (h.filter _).map _
  by_cases hsole : ∃ abi, ((keyedRows (keys.capabilityKey · capability) rows).map
      (keys.capabilityKey · capability)).dedup = [abi]
  · obtain ⟨abi, hsole⟩ := hsole
    have hsole' := (sole_perm hpassing).mpr hsole
    obtain ⟨hrepresentative, hkey, hdistinct, hrows⟩ :=
      selectAmong_sole representative hsole
    obtain ⟨hrepresentative', hkey', hdistinct', hrows'⟩ :=
      selectAmong_sole representative hsole'
    refine ⟨?_, hkey'.trans hkey.symm, ?_⟩
    · have hkeyed := List.isEmpty_eq_false_iff.mpr (dedup_eq_singleton.mp hsole).1
      have hkeyed' := List.isEmpty_eq_false_iff.mpr (dedup_eq_singleton.mp hsole').1
      simp only [DomainSetSelection.passed, selection, other, hrepresentative, hrepresentative',
        hdistinct, hdistinct', pickRepresentative_isSome, hkeyed]
      simp only [keyedRows, hkeyed']
    · simp only [selection, other, hrows, hrows']
      exact hpassing.filter _
  · have hmany := not_exists.mp hsole
    have hmany' (abi : String) (hsole' : _) := hmany abi ((sole_perm hpassing).mp hsole')
    obtain ⟨hpassed, hkey, hrows⟩ :=
      selectAmong_not_sole representative hmany
    obtain ⟨hpassed', hkey', hrows'⟩ :=
      selectAmong_not_sole representative hmany'
    exact ⟨hpassed'.trans hpassed.symm, hkey'.trans hkey.symm, .of_eq (hrows'.trans hrows.symm)⟩

end Capabilities

/-! ## The candidates of a binding -/

section Candidates
variable {candidates candidates' : List (CandidateDiagnostic Row)} {domain : AbiDomain}
  {abi : String}

theorem selectUniquePassingCandidate_sole
    (hsole : (((candidates.filter fun candidate => candidate.passed).filter
      fun candidate => candidate.abiId keys domain != "").map
        fun candidate => candidate.abiId keys domain).dedup = [abi]) :
    (selectUniquePassingCandidate keys candidates domain).selected =
      keep ReplacesCandidate ((candidates.filter fun candidate => candidate.passed).filter
        fun candidate => candidate.abiId keys domain != "") := by
  simp only [selectUniquePassingCandidate, hsole, filter_sole hsole]

theorem selectUniquePassingCandidate_not_sole
    (hmany : ∀ abi, (((candidates.filter fun candidate => candidate.passed).filter
      fun candidate => candidate.abiId keys domain != "").map
        fun candidate => candidate.abiId keys domain).dedup ≠ [abi]) :
    (selectUniquePassingCandidate keys candidates domain).selected = none := by
  unfold selectUniquePassingCandidate
  dsimp only
  split
  next abi hsole => exact absurd hsole (hmany abi)
  next abis _ => rfl

theorem selectUniquePassingCandidate_selects :
    let selected := (selectUniquePassingCandidate keys candidates domain).selected
    Selects (fun candidate => candidate.abiId keys domain)
      (candidates.filter fun candidate => candidate.passed)
      (fun candidate => candidate.snapshotHashMatch = true) selected.isSome
      ((selected.map fun candidate => candidate.abiId keys domain).getD "") selected := by
  intro selected
  by_cases hsole : ∃ abi, (((candidates.filter fun candidate => candidate.passed).filter
      fun candidate => candidate.abiId keys domain != "").map
        fun candidate => candidate.abiId keys domain).dedup = [abi]
  · obtain ⟨abi, hsole⟩ := hsole
    obtain ⟨hne, hkeys⟩ := dedup_eq_singleton.mp hsole
    obtain ⟨row, hrow, hkept, hprefers⟩ := keepCandidate_prefers hne
    have hselected : selected = some row :=
      (selectUniquePassingCandidate_sole hsole).trans hkept
    rw [hselected, Option.map_some, Option.getD_some, hkeys row hrow]
    exact selects_of_sole hsole ⟨row, hrow, rfl, hprefers⟩
  · have hmany := not_exists.mp hsole
    have hselected : selected = none := selectUniquePassingCandidate_not_sole hmany
    rw [hselected]
    exact selects_of_not_sole hmany

/-- Whether a candidate is selected, and which ABI it has, no order decides. -/
theorem selectUniquePassingCandidate_perm (h : candidates'.Perm candidates) :
    (selectUniquePassingCandidate keys candidates' domain).selected.map
        (fun candidate => candidate.abiId keys domain) =
      (selectUniquePassingCandidate keys candidates domain).selected.map
        fun candidate => candidate.abiId keys domain := by
  have hpassing := h.filter fun candidate => candidate.passed
  by_cases hsole : ∃ abi, (((candidates.filter fun candidate => candidate.passed).filter
      fun candidate => candidate.abiId keys domain != "").map
        fun candidate => candidate.abiId keys domain).dedup = [abi]
  · obtain ⟨abi, hsole⟩ := hsole
    have hsole' := (sole_perm hpassing).mpr hsole
    obtain ⟨row, hrow, hkept, -⟩ := keepCandidate_prefers (dedup_eq_singleton.mp hsole).1
    obtain ⟨row', hrow', hkept', -⟩ := keepCandidate_prefers (dedup_eq_singleton.mp hsole').1
    rw [selectUniquePassingCandidate_sole hsole, selectUniquePassingCandidate_sole hsole', hkept,
      hkept', Option.map_some, Option.map_some, (dedup_eq_singleton.mp hsole).2 row hrow,
      (dedup_eq_singleton.mp hsole').2 row' hrow']
  · have hmany := not_exists.mp hsole
    have hmany' (abi : String) (hsole' : _) := hmany abi ((sole_perm hpassing).mp hsole')
    rw [selectUniquePassingCandidate_not_sole hmany, selectUniquePassingCandidate_not_sole hmany']

end Candidates

end Selections

end DartPlant
