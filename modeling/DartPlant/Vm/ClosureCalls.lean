import DartPlant.Lib.FallibleLoop
import DartPlant.Vm.HeapObjects
import Mathlib.Data.List.Perm.Subperm

/-! # Closure calls

A closure call passes its arguments behind a descriptor, and the proof of the call holds the descriptor
against the signature of the function.  It compares names in both directions but never two names of the
descriptor, so a name may be supplied twice.
-/

namespace DartPlant
open ByteImage List

/-! ## The relation -/

/-- The vector of type arguments has this length. -/
def isTypeArguments (profile : HeapProfile) (image : Image) (heapBase typeArguments : BitVec 64)
    (typeArgsLen : Nat) : Bool :=
  taggedInHeapWindow profile heapBase typeArguments &&
    (requireCid profile image typeArguments profile.cidTypeArguments).isSome &&
      readPositiveSmi profile image (untag profile typeArguments +
        BitVec.ofNat 64 profile.typeArgumentsLengthOffset) == some typeArgsLen

/-- The call passes no type arguments, or a vector of them. -/
def suppliesTypeArguments (profile : HeapProfile) (image : Image)
    (heapBase typeArguments : BitVec 64) (typeArgsLen : Nat) : Bool :=
  if typeArgsLen = 0 then typeArguments == 0
  else isTypeArguments profile image heapBase typeArguments typeArgsLen

/-- The fixed formals of the user. -/
def SignatureCounts.fixedUser (counts : SignatureCounts) : Nat :=
  counts.fixedParameterCount - counts.implicitParameterCount

/-- The named arguments of a descriptor. -/
def ArgumentsDescriptorDetails.namedCount (arguments : ArgumentsDescriptorDetails) : Nat :=
  arguments.count - arguments.positionalCount

/-- The names of the call against the names of the signature. -/
def namesMatch (formals : List NamedParameter) (actuals : List DescriptorNamed) : Bool :=
  (actuals.all fun actual => formals.any fun formal => formal.name == actual.name) &&
    formals.all fun formal =>
      !formal.required || actuals.any fun actual => actual.name == formal.name

/-- `ProveClosureCallRelation`, from where signature and descriptor have been read. -/
def checkClosureCall (profile : HeapProfile) (image : Image) (heapBase typeArguments : BitVec 64)
    (signature : FunctionTypeDetails) (arguments : ArgumentsDescriptorDetails) : Bool :=
  let counts := signature.counts
  let userArguments := arguments.count - 1
  let positionalUserArguments := arguments.positionalCount - 1
  let userParameters := counts.parameterCount - counts.implicitParameterCount
  if 1 < counts.implicitParameterCount ∨ arguments.count = 0 ∨ arguments.positionalCount = 0 ∨
      arguments.size ≠ arguments.count ∨
      counts.fixedParameterCount < counts.implicitParameterCount then false
  else if userParameters < userArguments ∨
      (arguments.typeArgsLen ≠ 0 ∧ arguments.typeArgsLen ≠ counts.typeParameterCount) then false
  else if suppliesTypeArguments profile image heapBase typeArguments arguments.typeArgsLen = false then
    false
  else if counts.hasNamedOptionalParameters = false then
    arguments.namedCount = 0 ∧ positionalUserArguments = userArguments ∧
      counts.fixedUser ≤ positionalUserArguments ∧ positionalUserArguments ≤ userParameters
  else if positionalUserArguments ≠ counts.fixedUser ∨
      counts.optionalParameterCount < arguments.namedCount then false
  else namesMatch signature.named arguments.named

/-- `ProveClosureCallRelation`. -/
def proveClosureCallRelation (profile : HeapProfile) (image : Image)
    (heapBase function descriptor typeArguments : BitVec 64) : Bool :=
  match readFunctionTypeDetails profile image heapBase function,
      readArgumentsDescriptorDetails profile image heapBase descriptor with
  | some signature, some arguments =>
    checkClosureCall profile image heapBase typeArguments signature arguments
  | _, _ => false

/-! ## What has been read -/

/-- A signature has at most one implicit formal, and its names are those of its named formals. -/
structure FunctionTypeDetails.WellFormed (signature : FunctionTypeDetails) : Prop where
  implicit : signature.counts.implicitParameterCount ≤ 1
  fixed : signature.counts.implicitParameterCount ≤ signature.counts.fixedParameterCount
  fixedBound : signature.counts.fixedParameterCount < 2 ^ 14
  optionalBound : signature.counts.optionalParameterCount < 2 ^ 14
  named : signature.named.length =
    if signature.counts.hasNamedOptionalParameters then signature.counts.optionalParameterCount
    else 0

/-- The named arguments of a descriptor have the places behind the positional ones. -/
structure ArgumentsDescriptorDetails.WellFormed (arguments : ArgumentsDescriptorDetails) :
    Prop where
  positional : arguments.positionalCount ≤ arguments.count
  bound : arguments.count ≤ kMaxCallParameters
  named : arguments.named.length = arguments.namedCount
  places : (arguments.named.map (·.position)).Perm
    (List.range' arguments.positionalCount arguments.namedCount)

section Read
variable {profile : HeapProfile} {image : Image} {heapBase : BitVec 64}

theorem readNamedParameters_length {object : BitVec 64} {counts : SignatureCounts}
    {named : List NamedParameter}
    (h : readNamedParameters profile image heapBase object counts = some named) :
    named.length = if counts.hasNamedOptionalParameters then counts.optionalParameterCount else 0 := by
  unfold readNamedParameters at h
  split at h
  next hplain =>
    obtain rfl := Option.some.inj h
    rw [hplain]
    rfl
  next hnamed =>
    obtain ⟨names, -, h⟩ := Option.bind_eq_some_iff.mp h
    obtain ⟨slots, -, h⟩ := Option.bind_eq_some_iff.mp h
    obtain ⟨-, -, h⟩ := Option.bind_eq_some_iff.mp h
    rw [FallibleLoop.length_mapM h, length_range, if_pos (Bool.not_eq_false _ ▸ hnamed)]

theorem readFunctionTypeDetails_wellFormed {function : BitVec 64} {signature : FunctionTypeDetails}
    (h : readFunctionTypeDetails profile image heapBase function = some signature) :
    signature.WellFormed := by
  unfold readFunctionTypeDetails at h
  simp only [Option.bind_eq_bind, Option.bind_eq_some_iff, Option.guard_eq_some'] at h
  obtain ⟨-, -, -, -, signatureWord, -, -, -, -, -, packedCounts, -, packedTypeCounts, -, resultType,
    -, -, -, -, ⟨-, hfixed, -⟩, -, -, named, hnamed, h⟩ := h
  obtain rfl := Option.some.inj h
  exact ⟨Nat.lt_succ_iff.mp (Nat.mod_lt _ (by decide)), hfixed, Nat.mod_lt _ (by decide),
    Nat.mod_lt _ (by decide), readNamedParameters_length hnamed⟩

/-- The named entry of this index. -/
def NamedEntryAt (profile : HeapProfile) (image : Image) (heapBase object : BitVec 64) (index : Nat)
    (named : DescriptorNamed) : Prop :=
  ∃ taggedName, readCompressedObject profile image heapBase (namedEntry profile object index)
      profile.argumentsDescriptor.nameOffset = some taggedName ∧
    readDartString profile image taggedName 256 = some named.name ∧
    readPositiveSmi profile image (namedEntry profile object index +
      BitVec.ofNat 64 profile.argumentsDescriptor.positionOffset) = some named.position

/-- What so many turns of the loop over the named entries have read. -/
structure EntriesRead (profile : HeapProfile) (image : Image) (heapBase object : BitVec 64)
    (positional count turns : Nat) (entries : List DescriptorNamed) : Prop where
  length : entries.length = turns
  distinct : (entries.map (·.position)).Nodup
  inside : ∀ entry ∈ entries, positional ≤ entry.position ∧ entry.position < count
  entry : ∀ index named, entries[index]? = some named →
    NamedEntryAt profile image heapBase object index named

theorem EntriesRead.step {object : BitVec 64} {positional count turns : Nat}
    {entries next : List DescriptorNamed}
    (h : EntriesRead profile image heapBase object positional count turns entries)
    (hturn : readNamedEntry profile image heapBase object positional count entries turns =
      some next) :
    EntriesRead profile image heapBase object positional count (turns + 1) next := by
  unfold readNamedEntry at hturn
  simp only [Option.bind_eq_bind, Option.bind_eq_some_iff, Option.guard_eq_some'] at hturn
  obtain ⟨taggedName, htagged, name, hname, position, hposition, -, ⟨hlow, hhigh, hnew⟩, hturn⟩ :=
    hturn
  obtain rfl := Option.some.inj hturn
  constructor
  case length => rw [length_append, h.length, length_singleton]
  case distinct =>
    rw [map_append, map_singleton, nodup_append_comm, singleton_append,
      nodup_cons]
    exact ⟨hnew, h.distinct⟩
  case inside =>
    exact forall_mem_append.mpr ⟨h.inside, forall_mem_singleton.mpr ⟨hlow, hhigh⟩⟩
  case entry =>
    intro index named hget
    rw [List.getElem?_append] at hget
    split at hget
    · exact h.entry index named hget
    next hlast =>
      rw [h.length] at hlast hget
      obtain ⟨offset, rfl⟩ := Nat.exists_eq_add_of_le (Nat.not_lt.mp hlast)
      rw [Nat.add_sub_cancel_left] at hget
      cases offset with
      | zero =>
        obtain rfl := Option.some.inj hget
        exact ⟨taggedName, htagged, hname, hposition⟩
      | succ offset => cases hget

theorem EntriesRead.run {object : BitVec 64} {positional count turns : Nat}
    {entries : List DescriptorNamed}
    (h : (List.range turns).foldlM (readNamedEntry profile image heapBase object positional count)
      [] = some entries) :
    EntriesRead profile image heapBase object positional count turns entries := by
  induction turns generalizing entries with
  | zero =>
    obtain rfl := Option.some.inj h
    exact ⟨rfl, nodup_nil, nofun, nofun⟩
  | succ turns ih =>
    rw [range_succ, foldlM_append] at h
    obtain ⟨before, hbefore, hlast⟩ := Option.bind_eq_some_iff.mp h
    rw [foldlM_cons] at hlast
    obtain ⟨after, hafter, hlast⟩ := Option.bind_eq_some_iff.mp hlast
    obtain rfl := Option.some.inj hlast
    exact (ih hbefore).step hafter

/-- So many different places in a range are all of it. -/
theorem perm_range'_of_nodup {first size : Nat} {places : List Nat} (hdistinct : places.Nodup)
    (hlength : places.length = size)
    (hinside : ∀ place ∈ places, first ≤ place ∧ place < first + size) :
    places.Perm (List.range' first size) := by
  have hsubset : places ⊆ List.range' first size := fun place hplace =>
    mem_range'_1.mpr (hinside place hplace)
  refine (hdistinct.subperm hsubset).perm_of_length_le ?_
  rw [length_range', hlength]

/-- What is read of a descriptor. -/
structure DescriptorRead (profile : HeapProfile) (image : Image) (heapBase descriptor : BitVec 64)
    (arguments : ArgumentsDescriptorDetails) : Prop where
  window : taggedInHeapWindow profile heapBase descriptor = true
  cid : ∃ cid, readCid profile image descriptor = some cid ∧ profile.isArrayCid cid
  typeArgsLen : readPositiveSmi profile image (untag profile descriptor +
    BitVec.ofNat 64 profile.argumentsDescriptor.typeArgsLenOffset) = some arguments.typeArgsLen
  count : readPositiveSmi profile image (untag profile descriptor +
    BitVec.ofNat 64 profile.argumentsDescriptor.countOffset) = some arguments.count
  size : readPositiveSmi profile image (untag profile descriptor +
    BitVec.ofNat 64 profile.argumentsDescriptor.sizeOffset) = some arguments.size
  positionalCount : readPositiveSmi profile image (untag profile descriptor +
      BitVec.ofNat 64 profile.argumentsDescriptor.positionalCountOffset) =
    some arguments.positionalCount
  counters : arguments.count ≤ kMaxCallParameters ∧ arguments.size ≤ kMaxCallParameters ∧
    arguments.positionalCount ≤ arguments.count ∧ arguments.count ≤ arguments.size
  entries : EntriesRead profile image heapBase (untag profile descriptor)
    arguments.positionalCount arguments.count arguments.namedCount arguments.named

theorem readArgumentsDescriptorDetails_read {descriptor : BitVec 64}
    {arguments : ArgumentsDescriptorDetails}
    (h : readArgumentsDescriptorDetails profile image heapBase descriptor = some arguments) :
    DescriptorRead profile image heapBase descriptor arguments := by
  unfold readArgumentsDescriptorDetails at h
  simp only [Option.bind_eq_bind, Option.bind_eq_some_iff, Option.guard_eq_some'] at h
  obtain ⟨-, hwindow, cid, hcid, -, harray, typeArgsLen, htypeArgsLen, count, hcount, size, hsize,
    positional, hpositional, -, hcounters, named, hnamed, h⟩ := h
  obtain rfl := Option.some.inj h
  exact ⟨hwindow, ⟨cid, hcid, harray⟩, htypeArgsLen, hcount, hsize, hpositional, hcounters,
    EntriesRead.run hnamed⟩

theorem DescriptorRead.wellFormed {descriptor : BitVec 64}
    {arguments : ArgumentsDescriptorDetails}
    (h : DescriptorRead profile image heapBase descriptor arguments) : arguments.WellFormed := by
  obtain ⟨hcount, -, hpositional, -⟩ := h.counters
  obtain ⟨hlength, hdistinct, hinside, -⟩ := h.entries
  refine ⟨hpositional, hcount, hlength, perm_range'_of_nodup hdistinct ?_ ?_⟩
  · rw [length_map, hlength]
  · intro place hplace
    obtain ⟨entry, hentry, rfl⟩ := mem_map.mp hplace
    obtain ⟨hlow, hhigh⟩ := hinside entry hentry
    refine ⟨hlow, ?_⟩
    show entry.position < arguments.positionalCount + (arguments.count - arguments.positionalCount)
    omega

end Read

/-! ## Legal calls -/

/-- The call, apart from the number and the difference of its names. -/
structure CallShape (profile : HeapProfile) (image : Image) (heapBase typeArguments : BitVec 64)
    (signature : FunctionTypeDetails) (arguments : ArgumentsDescriptorDetails) : Prop where
  size : arguments.size = arguments.count
  receiver : arguments.positionalCount ≠ 0
  generic : arguments.typeArgsLen = 0 ∨
    arguments.typeArgsLen = signature.counts.typeParameterCount
  typeArguments : suppliesTypeArguments profile image heapBase typeArguments
    arguments.typeArgsLen = true
  fixed : signature.counts.fixedUser ≤ arguments.positionalCount - 1
  positional : arguments.positionalCount - 1 ≤ signature.counts.fixedUser +
    if signature.counts.hasNamedOptionalParameters then 0
    else signature.counts.optionalParameterCount
  onlyNamed : arguments.named ≠ [] → signature.counts.hasNamedOptionalParameters = true
  formal : ∀ actual ∈ arguments.named, ∃ formal ∈ signature.named, formal.name = actual.name
  places : (arguments.named.map (·.position)).Perm
    (List.range' arguments.positionalCount arguments.namedCount)
  required : ∀ formal ∈ signature.named, formal.required = true →
    ∃ actual ∈ arguments.named, actual.name = formal.name

/-- A legal call of the signature. -/
structure LegalCall (profile : HeapProfile) (image : Image) (heapBase typeArguments : BitVec 64)
    (signature : FunctionTypeDetails) (arguments : ArgumentsDescriptorDetails) : Prop extends
    CallShape profile image heapBase typeArguments signature arguments where
  distinct : (arguments.named.map (·.name)).Nodup

/-- A call that is legal but for a name that may come twice. -/
structure AcceptedCall (profile : HeapProfile) (image : Image)
    (heapBase typeArguments : BitVec 64) (signature : FunctionTypeDetails)
    (arguments : ArgumentsDescriptorDetails) : Prop extends
    CallShape profile image heapBase typeArguments signature arguments where
  few : arguments.named.length ≤ signature.named.length

theorem namesMatch_iff {formals : List NamedParameter} {actuals : List DescriptorNamed} :
    namesMatch formals actuals = true ↔
      (∀ actual ∈ actuals, ∃ formal ∈ formals, formal.name = actual.name) ∧
      ∀ formal ∈ formals, formal.required = true →
        ∃ actual ∈ actuals, actual.name = formal.name := by
  unfold namesMatch
  simp only [Bool.and_eq_true, all_eq_true, any_eq_true, beq_iff_eq, Bool.or_eq_true,
    Bool.not_eq_true', ← Bool.not_eq_true, imp_iff_not_or]

section Legal
variable {profile : HeapProfile} {image : Image} {heapBase typeArguments : BitVec 64}
  {signature : FunctionTypeDetails} {arguments : ArgumentsDescriptorDetails}

/-- Different names of a signature are no more than its names. -/
theorem LegalCall.accepted
    (h : LegalCall profile image heapBase typeArguments signature arguments) :
    AcceptedCall profile image heapBase typeArguments signature arguments := by
  refine ⟨h.toCallShape, ?_⟩
  have hsubset : arguments.named.map (·.name) ⊆ signature.named.map (·.name) := by
    intro name hname
    obtain ⟨actual, hactual, rfl⟩ := mem_map.mp hname
    obtain ⟨formal, hformal, hsame⟩ := h.formal actual hactual
    exact mem_map.mpr ⟨formal, hformal, hsame⟩
  have hlength := (h.distinct.subperm hsubset).length_le
  rwa [length_map, length_map] at hlength

/-- The checks find the accepted calls. -/
theorem checkClosureCall_iff (hsignature : signature.WellFormed) (harguments : arguments.WellFormed) :
    checkClosureCall profile image heapBase typeArguments signature arguments = true ↔
      AcceptedCall profile image heapBase typeArguments signature arguments := by
  obtain ⟨himplicit, hfixed, -, -, hformals⟩ := hsignature
  obtain ⟨hpositional, -, hactuals, hplaces⟩ := harguments
  have huser : signature.counts.parameterCount - signature.counts.implicitParameterCount =
      signature.counts.fixedUser + signature.counts.optionalParameterCount := by
    unfold SignatureCounts.parameterCount SignatureCounts.fixedUser
    omega
  have hempty : arguments.named = [] ↔ arguments.namedCount = 0 := by
    rw [← length_eq_zero_iff, hactuals]
  unfold checkClosureCall
  dsimp only
  rw [huser]
  constructor
  · intro h
    split at h
    · cases h
    next hreceiver =>
      simp only [not_or, not_not] at hreceiver
      obtain ⟨-, hcount, hreceiver, hsize, -⟩ := hreceiver
      split at h
      · cases h
      next hgeneric =>
        simp only [not_or, not_and, not_not] at hgeneric
        obtain ⟨hfit, hgeneric⟩ := hgeneric
        split at h
        · cases h
        next hvector =>
          have hvector := Bool.not_eq_false _ ▸ hvector
          split at h
          next hplain =>
            rw [decide_eq_true_eq] at h
            obtain ⟨hnone, hsame, hlow, hhigh⟩ := h
            have hnil := hempty.mpr hnone
            rw [hplain, if_neg Bool.false_ne_true, length_eq_zero_iff] at hformals
            refine ⟨⟨hsize, hreceiver, or_iff_not_imp_left.mpr hgeneric, hvector, hlow, ?_,
              fun hsome => absurd hnil hsome, ?_, hplaces, ?_⟩, ?_⟩
            · rw [hplain, if_neg Bool.false_ne_true]
              exact hhigh
            · rw [hnil]
              exact nofun
            · rw [hformals]
              exact nofun
            · rw [hnil]
              exact Nat.zero_le _
          next hnamed =>
            have hnamed := Bool.not_eq_false _ ▸ hnamed
            rw [hnamed, if_pos rfl] at hformals
            split at h
            · cases h
            next hcounts =>
              obtain ⟨hsame, hfew⟩ := not_or.mp hcounts
              obtain ⟨hformal, hrequired⟩ := namesMatch_iff.mp h
              refine ⟨⟨hsize, hreceiver, or_iff_not_imp_left.mpr hgeneric, hvector,
                (not_not.mp hsame).ge, ?_, fun _ => hnamed, hformal, hplaces, hrequired⟩, ?_⟩
              · rw [hnamed, if_pos rfl]
                exact (not_not.mp hsame).le
              · omega
  · rintro ⟨hshape, hfew⟩
    have hreceiver := hshape.receiver
    have hlow := hshape.fixed
    have hhigh := hshape.positional
    have hnamedCount : arguments.namedCount = arguments.count - arguments.positionalCount := rfl
    rw [if_neg (by have := hshape.size; omega)]
    cases hnamed : signature.counts.hasNamedOptionalParameters with
    | false =>
      have hnil : arguments.named = [] := by
        by_contra hsome
        exact absurd (hshape.onlyNamed hsome) (hnamed ▸ Bool.false_ne_true)
      have hnone := hempty.mp hnil
      rw [hnamed, if_neg Bool.false_ne_true] at hhigh
      rw [if_neg ?_, if_neg ?_, if_pos rfl, decide_eq_true_eq]
      · exact ⟨hnone, by omega, hlow, hhigh⟩
      · rw [hshape.typeArguments]
        exact Bool.false_ne_true.symm
      · have := hshape.generic
        omega
    | true =>
      rw [hnamed, if_pos rfl] at hhigh hformals
      rw [if_neg ?_, if_neg ?_, if_neg Bool.false_ne_true.symm, if_neg ?_, namesMatch_iff]
      · exact ⟨hshape.formal, hshape.required⟩
      · omega
      · rw [hshape.typeArguments]
        exact Bool.false_ne_true.symm
      · have := hshape.generic
        omega

/-- The relation is proved exactly of the accepted calls. -/
theorem proveClosureCallRelation_iff {function descriptor : BitVec 64}
    (hsignature : readFunctionTypeDetails profile image heapBase function = some signature)
    (harguments : readArgumentsDescriptorDetails profile image heapBase descriptor =
      some arguments) :
    proveClosureCallRelation profile image heapBase function descriptor typeArguments = true ↔
      AcceptedCall profile image heapBase typeArguments signature arguments := by
  unfold proveClosureCallRelation
  rw [hsignature, harguments]
  exact checkClosureCall_iff (readFunctionTypeDetails_wellFormed hsignature)
    (readArgumentsDescriptorDetails_read harguments).wellFormed

end Legal

end DartPlant
