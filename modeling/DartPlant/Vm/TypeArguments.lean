import DartPlant.Vm.FlutterVmOperations
import DartPlant.Vm.HeapObjects

/-! # Elements of type arguments

A read of one element of a type arguments object proves its layout as it goes: every root-compatible
row is checked, the rows that pass must agree on one ABI, and the element is read again with the row
that stands for them.

The loop over the rows counts in a variable of the name of the requested index.  So a row is checked
for the element at its own place in the list.
-/

namespace DartPlant
open ByteImage FlutterVmState

/-! ## Rows -/

/-- `TaggedInHeapWindow`. -/
def RawObjectLayout.inHeapWindow (layout : RawObjectLayout) (heapBase tagged : BitVec 64) : Bool :=
  heapBase ≠ 0 && isHeapWord layout tagged && heapBase.toNat + layout.heapObjectTag < 2 ^ 64 &&
    heapBase.toNat + layout.heapObjectTag ≤ tagged.toNat && tagged.toNat - heapBase.toNat < 2 ^ 32

/-- What a row says of type arguments, and where it keeps the heap base in the thread. -/
structure TypeArgumentsLayout where
  rawObject : RawObjectLayout
  threadHeapBaseOffset : Nat
  cid : Nat
  lengthOffset : Nat
  typesOffset : Nat
  deriving DecidableEq, Repr

/-- One call: the words of the thread, the memory of the process, and what is asked for. -/
structure TypeArgumentsRead (Row : Type) where
  layout : Row → TypeArgumentsLayout
  threadWord : Nat → BitVec 64
  image : Image
  typeArgumentsRaw : BitVec 64
  index : BitVec 32

namespace TypeArgumentsRead
variable {Row : Type} (read : TypeArgumentsRead Row) (row : Row)

def heapBase : BitVec 64 := read.threadWord (read.layout row).threadHeapBaseOffset

def object : BitVec 64 :=
  read.typeArgumentsRaw - BitVec.ofNat 64 (read.layout row).rawObject.heapObjectTag

/-- The address of an element does not wrap. -/
def addressable (position : Nat) : Bool :=
  !(position > (2 ^ 64 - 1 - (read.layout row).typesOffset) / 4 ||
    (read.object row).toNat > 2 ^ 64 - 1 - (read.layout row).typesOffset - position * 4)

def elementAddress (position : Nat) : BitVec 64 :=
  read.object row + BitVec.ofNat 64 (read.layout row).typesOffset + BitVec.ofNat 64 (position * 4)

/-- The compressed word of an element. -/
def compressedElement (position : Nat) : Option Nat :=
  readSelf read.image (read.elementAddress row position) 4

/-- The last conditions of a row: the class, the length, and the element. -/
def provenElement (tags position : Nat) : Option Nat := do
  let layout := read.layout row
  guard (layout.rawObject.classId tags = layout.cid)
  let lengthRaw ← readSelf read.image (read.object row + BitVec.ofNat 64 layout.lengthOffset) 4
  let length ← decodePositiveCompressedSmi lengthRaw layout.rawObject
  guard (position < length)
  let compressed ← read.compressedElement row position
  guard (compressed &&& layout.rawObject.smiTagMask = layout.rawObject.heapObjectTag ∧
    (read.heapBase row).toNat + compressed < 2 ^ 64)
  return compressed

/-- The verdict of one turn of the loop over the rows. -/
def passes (position : Nat) : Bool :=
  let layout := (read.layout row).rawObject
  if layout.compressedWordSize ≠ 4 ∨
      layout.inHeapWindow (read.heapBase row) read.typeArgumentsRaw = false then false
  else
    match readSelf read.image (read.object row) 8 with
    -- Without the header, what has been found so far stands.
    | none => true
    | some tags =>
      if layout.classIdTagBits = 0 ∨ 64 ≤ layout.classIdTagBits then true
      else read.addressable row position && (read.provenElement row tags position).isSome

end TypeArgumentsRead

/-! ## The call -/

namespace FlutterVmState
variable {registry : ProfileRegistry} (state : FlutterVmState registry)

/-- The candidates that passed the root proof and this one, at their own places. -/
def compatibleAt (passes : registry.Row → Nat → Bool) : List Bool :=
  state.abiCandidates.profiles.zipIdx.map fun (candidate, index) =>
    state.rootCompatibleCandidates[index]?.getD false && passes candidate index

/-- The selection among them. -/
def selectAt (capability : VmCapability) (passes : registry.Row → Nat → Bool) :
    DomainSetSelection registry.Row :=
  selectCapabilityAbiSet registry.rowAbiKey state.abiCandidates capability
    (state.compatibleAt passes)

end FlutterVmState

section Call
variable {registry : ProfileRegistry}

/-- `ReadTypeArgumentsElement`. -/
def TypeArgumentsRead.readTypeArgumentsElement (read : TypeArgumentsRead registry.Row)
    (state : FlutterVmState registry) (isolate : DartPlantIsolateIdentity) :
    FlutterVmState registry × Except DartPlantStatus (BitVec 64) :=
  let capability := kCapabilityTypeArgumentsLayout
  if state.sameIdentity isolate = false then (state, .error .invalidArgument)
  else if state.hasCapability capability = false ∨ state.hasFailedCapability capability = true then
    (state, .error .vmBridgeUnavailable)
  else
    let selection := state.selectAt capability read.passes
    if selection.passed = false then
      if selection.ambiguous then
        (state.markCapabilityAmbiguous capability, .error .profileMismatch)
      else (state.markCapabilityFailed capability, .error .objectHandleInvalid)
    else
      match selection.representative,
          state.capabilityBindings.bindSelection capability selection with
      | some selected, some bindings =>
        let bound := { state with capabilityBindings := bindings }.setProofRecordDomains capability
          selected selection.abiDomainKey
        if read.addressable selected read.index.toNat = false then
          (bound.markCapabilityFailed capability, .error .profileMismatch)
        else
          match read.compressedElement selected read.index.toNat with
          | none => (bound.markCapabilityFailed capability, .error .objectHandleInvalid)
          | some compressed => (bound.markCapabilityVerified capability,
              .ok (read.heapBase selected + BitVec.ofNat 64 compressed))
      | _, _ => (state.markCapabilityFailed capability, .error .profileMismatch)

end Call

/-! ## What is proven -/

/-- The element of the requested index, proven under the row: the value lies in the heap window, its
header has the class of type arguments, its length exceeds the index, and the element is the heap
object that is returned. -/
structure ProvenElement {Row : Type} (read : TypeArgumentsRead Row) (row : Row) (raw : BitVec 64) :
    Prop where
  compressed : (read.layout row).rawObject.compressedWordSize = 4
  window : (read.layout row).rawObject.inHeapWindow (read.heapBase row) read.typeArgumentsRaw = true
  header : ∃ tags, readSelf read.image (read.object row) 8 = some tags ∧
    (read.layout row).rawObject.classIdTagBits ≠ 0 ∧
      (read.layout row).rawObject.classIdTagBits < 64 ∧
        (read.layout row).rawObject.classId tags = (read.layout row).cid
  length : ∃ lengthRaw length, readSelf read.image
      (read.object row + BitVec.ofNat 64 (read.layout row).lengthOffset) 4 = some lengthRaw ∧
    decodePositiveCompressedSmi lengthRaw (read.layout row).rawObject = some length ∧
      read.index.toNat < length
  addressable : read.addressable row read.index.toNat = true
  element : ∃ compressed, read.compressedElement row read.index.toNat = some compressed ∧
    compressed &&& (read.layout row).rawObject.smiTagMask =
        (read.layout row).rawObject.heapObjectTag ∧
      raw.toNat = (read.heapBase row).toNat + compressed

section Proofs
variable {registry : ProfileRegistry} (state : FlutterVmState registry)
  (read : TypeArgumentsRead registry.Row)

/-- The call is one that the backend serves. -/
def Serves (isolate : DartPlantIsolateIdentity) : Prop :=
  state.sameIdentity isolate = true ∧ state.hasCapability kCapabilityTypeArgumentsLayout = true ∧
    state.hasFailedCapability kCapabilityTypeArgumentsLayout = false

/-- The row is a candidate that passed the root proof. -/
def RootCompatible (row : registry.Row) : Prop :=
  ∃ position : Nat, state.abiCandidates.profiles[position]? = some row ∧
    state.rootCompatibleCandidates[position]?.getD false = true

/-- The element is proven under rows of exactly one ABI. -/
def SoleProvenAbi : Prop :=
  ∃ key, key ≠ "" ∧
    (∃ row raw, RootCompatible state row ∧ ProvenElement read row raw ∧
      registry.rowAbiKey row kCapabilityTypeArgumentsLayout = key) ∧
    ∀ row raw, RootCompatible state row → ProvenElement read row raw →
      registry.rowAbiKey row kCapabilityTypeArgumentsLayout ≠ "" →
        registry.rowAbiKey row kCapabilityTypeArgumentsLayout = key

/-- What a call returns is proven under the row that it binds; and an element that is proven under
exactly one ABI is returned. -/
structure ReadsProven (isolate : DartPlantIsolateIdentity) : Prop where
  sound : ∀ raw, (read.readTypeArgumentsElement state isolate).2 = .ok raw → ∃ binding,
    (read.readTypeArgumentsElement state isolate).1.capabilityBindings.findBinding
        kCapabilityTypeArgumentsLayout = some binding ∧
      ProvenElement read binding.representative raw
  complete : Serves state isolate → SoleProvenAbi state read →
    ∃ raw, (read.readTypeArgumentsElement state isolate).2 = .ok raw

/-- The row stands for the rows that pass at their own places. -/
def StandsFor (row : registry.Row) : Prop :=
  (state.selectAt kCapabilityTypeArgumentsLayout read.passes).representative = some row

/-- The word of the requested element is there. -/
def HasElement (row : registry.Row) : Prop :=
  read.addressable row read.index.toNat = true ∧
    ∃ compressed, read.compressedElement row read.index.toNat = some compressed

/-- The header of the object is there, with a class id. -/
def HasHeader (row : registry.Row) : Prop :=
  (read.layout row).rawObject.classIdTagBits ≠ 0 ∧
    (read.layout row).rawObject.classIdTagBits < 64 ∧
      ∃ tags, readSelf read.image (read.object row) 8 = some tags

/-- The row that stands for those that pass at their own places has a header and passes at the
requested index, if it has a word there; and there is such a row when the element is proven under
exactly one ABI. -/
structure PassesRequested : Prop where
  chosen : ∀ row, StandsFor state read row → HasElement read row →
    HasHeader read row ∧ read.passes row read.index.toNat = true
  sole : SoleProvenAbi state read → ∃ row, StandsFor state read row ∧ HasElement read row

end Proofs

/-! ## Rows that pass -/

section Rows
variable {Row : Type} {read : TypeArgumentsRead Row} {row : Row}

/-- The last conditions hold of an element. -/
theorem provenElement_eq_some {tags position compressed : Nat} :
    read.provenElement row tags position = some compressed ↔
      (read.layout row).rawObject.classId tags = (read.layout row).cid ∧
        (∃ lengthRaw length, readSelf read.image
            (read.object row + BitVec.ofNat 64 (read.layout row).lengthOffset) 4 =
              some lengthRaw ∧
          decodePositiveCompressedSmi lengthRaw (read.layout row).rawObject = some length ∧
            position < length) ∧
        read.compressedElement row position = some compressed ∧
          compressed &&& (read.layout row).rawObject.smiTagMask =
              (read.layout row).rawObject.heapObjectTag ∧
            (read.heapBase row).toNat + compressed < 2 ^ 64 := by
  unfold TypeArgumentsRead.provenElement
  simp only [Option.bind_eq_bind, Option.bind_eq_some_iff, Option.guard_eq_some', Option.pure_def,
    Option.some.injEq]
  constructor
  · rintro ⟨-, hcid, lengthRaw, hread, length, hdecode, -, hlength, word, hword, -, htagged, rfl⟩
    exact ⟨hcid, ⟨lengthRaw, length, hread, hdecode, hlength⟩, hword, htagged⟩
  · rintro ⟨hcid, ⟨lengthRaw, length, hread, hdecode, hlength⟩, hword, htagged⟩
    exact ⟨(), hcid, lengthRaw, hread, length, hdecode, (), hlength, compressed, hword, (), htagged,
      rfl⟩

end Rows

section Passing
variable {registry : ProfileRegistry} {state : FlutterVmState registry}
  {read : TypeArgumentsRead registry.Row} {row : registry.Row}

/-- A row with a header that passes at the requested index proves what is read there. -/
theorem proven_of_passes (hheader : HasHeader read row)
    (hpasses : read.passes row read.index.toNat = true) {compressed : Nat}
    (helement : read.compressedElement row read.index.toNat = some compressed) :
    ProvenElement read row (read.heapBase row + BitVec.ofNat 64 compressed) := by
  obtain ⟨hbits, hwidth, tags, htags⟩ := hheader
  unfold TypeArgumentsRead.passes at hpasses
  dsimp only at hpasses
  split at hpasses
  · cases hpasses
  next hwindow =>
    obtain ⟨hcompressed, hwindow⟩ := not_or.mp hwindow
    rw [htags] at hpasses
    dsimp only at hpasses
    rw [if_neg (not_or.mpr ⟨hbits, Nat.not_le.mpr hwidth⟩), Bool.and_eq_true,
      Option.isSome_iff_exists] at hpasses
    obtain ⟨haddressable, word, hproven⟩ := hpasses
    obtain ⟨hcid, hlength, hword, htagged, hfits⟩ := provenElement_eq_some.mp hproven
    obtain rfl := Option.some.inj (hword.symm.trans helement)
    constructor
    case compressed => exact not_not.mp hcompressed
    case window => exact Bool.eq_true_of_not_eq_false hwindow
    case header => exact ⟨tags, htags, hbits, hwidth, hcid⟩
    case length => exact hlength
    case addressable => exact haddressable
    case element =>
      refine ⟨word, hword, htagged, ?_⟩
      rw [BitVec.toNat_add, BitVec.toNat_ofNat, Nat.add_mod_mod]
      exact Nat.mod_eq_of_lt hfits

/-- A row under which an element is proven has a header and passes at the requested index. -/
theorem ProvenElement.passes {raw : BitVec 64} (h : ProvenElement read row raw) :
    HasHeader read row ∧ read.passes row read.index.toNat = true := by
  obtain ⟨tags, htags, hbits, hwidth, hcid⟩ := h.header
  obtain ⟨compressed, hword, htagged, hraw⟩ := h.element
  refine ⟨⟨hbits, hwidth, tags, htags⟩, ?_⟩
  have hproven : read.provenElement row tags read.index.toNat = some compressed :=
    provenElement_eq_some.mpr ⟨hcid, h.length, hword, htagged, hraw ▸ raw.isLt⟩
  unfold TypeArgumentsRead.passes
  dsimp only
  rw [if_neg (not_or.mpr ⟨not_not.mpr h.compressed, Bool.not_eq_false _ ▸ h.window⟩), htags]
  dsimp only
  rw [if_neg (not_or.mpr ⟨hbits, Nat.not_le.mpr hwidth⟩), h.addressable, hproven]
  rfl

/-- What stands for a selection makes it pass. -/
theorem passed_of_standsFor (h : StandsFor state read row) :
    (state.selectAt kCapabilityTypeArgumentsLayout read.passes).passed = true := by
  unfold StandsFor at h
  unfold selectAt selectCapabilityAbiSet at h ⊢
  split
  next hrefused =>
    rw [if_pos hrefused] at h
    cases h
  next haccepted =>
    rw [if_neg haccepted] at h
    dsimp only at h ⊢
    split
    next key hkeys =>
      rw [hkeys] at h
      unfold DomainSetSelection.passed
      rw [h]
      rfl
    next hmany =>
      split at h
      next key hkeys => exact absurd hkeys (hmany key)
      next => cases h

/-! ## What a call returns -/

variable {isolate : DartPlantIsolateIdentity}

/-- A call that succeeds returns the requested element of the row that stands for those that pass at
their own places, and binds that row. -/
theorem read_of_ok {raw : BitVec 64}
    (h : (read.readTypeArgumentsElement state isolate).2 = .ok raw) :
    Serves state isolate ∧ ∃ row binding compressed, StandsFor state read row ∧
      (read.readTypeArgumentsElement state isolate).1.capabilityBindings.findBinding
          kCapabilityTypeArgumentsLayout = some binding ∧ binding.representative = row ∧
        read.addressable row read.index.toNat = true ∧
          read.compressedElement row read.index.toNat = some compressed ∧
            raw = read.heapBase row + BitVec.ofNat 64 compressed := by
  unfold TypeArgumentsRead.readTypeArgumentsElement at h ⊢
  dsimp only at h ⊢
  split at h
  · cases h
  next hidentity =>
    rw [if_neg hidentity]
    split at h
    · cases h
    next hcapability =>
      rw [if_neg hcapability]
      obtain ⟨hheld, hfailed⟩ := not_or.mp hcapability
      have hserves : Serves state isolate :=
        ⟨Bool.eq_true_of_not_eq_false hidentity, Bool.eq_true_of_not_eq_false hheld,
          Bool.eq_false_of_not_eq_true hfailed⟩
      refine ⟨hserves, ?_⟩
      split at h
      · split at h
        · cases h
        · cases h
      next hpassed =>
        rw [if_neg hpassed]
        split at h
        next selected bindings hselected hbound =>
          split at h
          · cases h
          next haddressable =>
            rw [if_neg haddressable]
            split at h
            · cases h
            next compressed hword =>
              obtain ⟨-, ⟨binding, hfound, hrepresentative, -⟩, -⟩ :=
                CapabilityBindingSet.bindSelection_spec hbound
              rw [hselected] at hrepresentative
              exact ⟨selected, binding, compressed, hselected, hfound,
                (Option.some.inj hrepresentative).symm,
                Bool.eq_true_of_not_eq_false haddressable, hword, (Except.ok.inj h).symm⟩
        next => cases h

/-- A call that is served returns the element of the row that stands for those that pass at their
own places, if it is there. -/
theorem read_ok (hserves : Serves state isolate) (hstands : StandsFor state read row)
    (helement : HasElement read row) :
    ∃ raw, (read.readTypeArgumentsElement state isolate).2 = .ok raw := by
  obtain ⟨hidentity, hheld, hfailed⟩ := hserves
  obtain ⟨haddressable, compressed, hword⟩ := helement
  have hpassed := passed_of_standsFor hstands
  obtain ⟨bindings, hbound⟩ := CapabilityBindingSet.bindSelection_isSome state.capabilityBindings
    (show kCapabilityTypeArgumentsLayout ≠ kCapabilityNone by decide) hpassed
  have hselected : (state.selectAt kCapabilityTypeArgumentsLayout read.passes).representative =
      some row := hstands
  refine ⟨read.heapBase row + BitVec.ofNat 64 compressed, ?_⟩
  unfold TypeArgumentsRead.readTypeArgumentsElement
  dsimp only
  rw [hidentity, hheld, hfailed, hpassed, hselected, hbound]
  dsimp only
  rw [haddressable, hword]
  rfl

/-- The object at `0x100001000` has a length of 3, and its memory goes on behind its elements. -/
def shortTypeArguments : TypeArgumentsRead soleRegistry.Row where
  layout := fun _ => ⟨⟨1, 0, 1, 1, 12, 20, 4⟩, 0x60, 5, 8, 12⟩
  threadWord := fun _ => 0x100000000
  image := fun address =>
    if address.toNat < 0x100001000 ∨ 0x100001040 ≤ address.toNat then none
    else if address = 0x100001001 then some 0x50
    else if address = 0x100001008 then some 6
    else if address.toNat % 4 = 0 ∧ 0x10000100c ≤ address.toNat then some 0x21
    else some 0
  typeArgumentsRaw := 0x100001001
  index := 5

end Passing

end DartPlant
