import DartPlant.Interceptor.ClosureMapping
import DartPlant.Vm.ClosureCalls

/-! # Accepted closure calls

A closure call that was proved of its function is also mapped to the formals of its call layout, when
the layout was made from the same signature.  Both read the descriptor for themselves: the proof with
the heap window of its profile, the mapping through the invocation.
-/

namespace DartPlant
open ByteImage FallibleLoop List Option

/-! ## One signature in two forms -/

/-- The formals of the user, as the layout of a call records them. -/
def formalShapes (signature : FunctionTypeDetails) : List (DartClosureFormalKind × Bool × String) :=
  List.replicate signature.counts.fixedUser (.requiredPositional, true, "") ++
    if signature.counts.hasNamedOptionalParameters then
      signature.named.map fun formal => (.named, formal.required, formal.name)
    else List.replicate signature.counts.optionalParameterCount (.optionalPositional, false, "")

/-- What a layout records of a formal, but for its index. -/
def DartClosureFormalLayout.shape (formal : DartClosureFormalLayout) :
    DartClosureFormalKind × Bool × String :=
  (formal.kind, formal.isRequired, formal.name)

/-- The layout of the closure is of this signature.  Where the signature has no implicit formal the
layout has a receiver of its own. -/
structure SameSignature (closure : DartClosureSignatureLayout) (signature : FunctionTypeDetails) :
    Prop where
  implicit : closure.implicitParameterCount = 1
  fixed : closure.fixedParameterCount = signature.counts.fixedUser + 1
  optional : closure.optionalParameterCount = signature.counts.optionalParameterCount
  typeParameters : closure.typeParameterCount = signature.counts.typeParameterCount
  hasNamed : closure.hasNamedOptionalParameters = signature.counts.hasNamedOptionalParameters
  formals : closure.formals.map DartClosureFormalLayout.shape = formalShapes signature

section Formals
variable {closure : DartClosureSignatureLayout} {signature : FunctionTypeDetails}

theorem SameSignature.length (h : SameSignature closure signature)
    (hsignature : signature.WellFormed) : closure.formals.length =
      signature.counts.fixedUser + signature.counts.optionalParameterCount := by
  rw [← length_map (f := DartClosureFormalLayout.shape), h.formals, formalShapes,
    length_append, length_replicate]
  have hnamed := hsignature.named
  split
  next hhas =>
    rw [if_pos hhas] at hnamed
    rw [length_map, hnamed]
  next => rw [length_replicate]

/-- A named formal comes behind the fixed ones, where the signature names it. -/
theorem SameSignature.namedFormal (h : SameSignature closure signature)
    (hnamed : signature.counts.hasNamedOptionalParameters = true) (name : String) :
    DartPlant.namedFormal closure.formals name =
      (signature.named.findIdx? fun formal => formal.name == name).map
        (· + signature.counts.fixedUser) := by
  let wanted : DartClosureFormalKind × Bool × String → Bool :=
    fun shape => shape.1 == .named && shape.2.2 == name
  have hshapes : DartPlant.namedFormal closure.formals name =
      (closure.formals.map DartClosureFormalLayout.shape).findIdx? wanted := by
    rw [List.findIdx?_map]
    rfl
  rw [hshapes, h.formals, formalShapes, if_pos hnamed, List.findIdx?_append, List.findIdx?_map,
    length_replicate]
  have hfixed : (List.replicate signature.counts.fixedUser
      (DartClosureFormalKind.requiredPositional, true, "")).findIdx? wanted = none := by
    rw [List.findIdx?_eq_none_iff]
    intro shape hshape
    rw [eq_of_mem_replicate hshape]
    rfl
  rw [hfixed, none_or]
  rfl

/-- The name of a formal finds it. -/
theorem SameSignature.namedFormal_of_mem (h : SameSignature closure signature)
    (hnamed : signature.counts.hasNamedOptionalParameters = true)
    (hdistinct : (signature.named.map (·.name)).Nodup) {index : Nat} {formal : NamedParameter}
    (hformal : signature.named[index]? = some formal) :
    DartPlant.namedFormal closure.formals formal.name =
      some (index + signature.counts.fixedUser) := by
  rw [h.namedFormal hnamed]
  obtain ⟨hindex, rfl⟩ := List.getElem?_eq_some_iff.mp hformal
  have hfound : (signature.named.findIdx? fun other => other.name == signature.named[index].name) =
      some index := by
    rw [List.findIdx?_eq_some_iff_getElem]
    refine ⟨hindex, beq_self_eq_true _, fun earlier hearlier hsame => ?_⟩
    have hplaces := @List.Nodup.getElem_inj_iff _ _ hdistinct earlier
      (by rw [length_map]; omega) index (by rwa [length_map])
    rw [getElem_map, getElem_map] at hplaces
    exact absurd (hplaces.mp (beq_iff_eq.mp hsame)) (Nat.ne_of_lt hearlier)
  rw [hfound]
  rfl

theorem SameSignature.fixed_le (h : SameSignature closure signature)
    (hnamed : signature.counts.hasNamedOptionalParameters = true) {name : String} {formal : Nat}
    (hformal : DartPlant.namedFormal closure.formals name = some formal) :
    signature.counts.fixedUser ≤ formal := by
  rw [h.namedFormal hnamed] at hformal
  obtain ⟨index, -, rfl⟩ := map_eq_some_iff.mp hformal
  exact Nat.le_add_left _ _

end Formals

/-- The formal that a name finds has that name. -/
theorem namedFormal_name {formals : List DartClosureFormalLayout} {name : String} {index : Nat}
    (h : namedFormal formals name = some index) :
    ∃ formal, formals[index]? = some formal ∧ formal.name = name := by
  obtain ⟨hindex, hformal, -⟩ := List.findIdx?_eq_some_iff_getElem.mp h
  exact ⟨formals[index], List.getElem?_eq_getElem hindex,
    beq_iff_eq.mp (Bool.and_eq_true_iff.mp hformal).2⟩

/-! ## The loops of the mapping -/

section Loops
variable {closure : DartClosureSignatureLayout} {signature : FunctionTypeDetails}
  {arguments : ArgumentsDescriptorDetails} {placed : ActualForFormal}

/-- What so many turns of the loop over the named arguments have placed. -/
structure Placing (formals : List DartClosureFormalLayout) (arguments : ArgumentsDescriptorDetails)
    (turns : Nat) (placed : ActualForFormal) : Prop where
  positional : ∀ formal < arguments.positionalCount - 1, 0 ≤ placed formal
  taken : ∀ index < turns, ∀ named, arguments.named[index]? = some named →
    ∃ formal, namedFormal formals named.name = some formal ∧ 0 ≤ placed formal
  only : ∀ formal, 0 ≤ placed formal → formal < arguments.positionalCount - 1 ∨
    ∃ index < turns, ∃ named, arguments.named[index]? = some named ∧
      namedFormal formals named.name = some formal
  bound : ∀ formal, placed formal < (arguments.count : Int) - 1

/-- The positional arguments go to the first formals. -/
theorem placePositional_ok {formals : List DartClosureFormalLayout} {limit : Nat}
    (hlimit : arguments.positionalCount - 1 ≤ limit) (hreceiver : arguments.positionalCount ≠ 0)
    (harguments : arguments.WellFormed) :
    ∃ placed, placePositional limit (arguments.positionalCount - 1) = .ok placed ∧
      Placing formals arguments 0 placed := by
  obtain ⟨placed, hplaced, -⟩ : ∃ placed,
      placePositional limit (arguments.positionalCount - 1) = .ok placed ∧ True := by
    refine loop_progress (fun _ _ => True) trivial fun turn before hturn _ => ?_
    exact ⟨Function.update before turn (toInt32 turn), by rw [if_neg (by omega)], trivial⟩
  have hform := placePositional_eq hplaced
  have hpositional := harguments.positional
  have hbound : arguments.count ≤ 65536 := harguments.bound
  have hvalue (formal : Nat) (h : formal < arguments.positionalCount - 1) :
      toInt32 formal = formal := toInt32_of_lt (by omega)
  refine ⟨placed, hplaced, ?_⟩
  rw [hform]
  constructor
  case positional =>
    intro formal hformal
    rw [if_pos hformal, hvalue formal hformal]
    exact Int.natCast_nonneg formal
  case taken => exact nofun
  case only =>
    intro formal hformal
    split at hformal
    next hlow => exact Or.inl hlow
    next => exact absurd hformal (by decide)
  case bound =>
    intro formal
    split
    next hlow =>
      rw [hvalue formal hlow]
      omega
    next => omega

/-- Named arguments with different names find free formals. -/
theorem placeNamed_ok {entry : Nat → Option (Nat × String)} (hsame : SameSignature closure signature)
    (harguments : arguments.WellFormed) (hreceiver : arguments.positionalCount ≠ 0)
    (hnamed : arguments.named ≠ [] → signature.counts.hasNamedOptionalParameters = true ∧
      arguments.positionalCount - 1 = signature.counts.fixedUser)
    (hformals : (signature.named.map (·.name)).Nodup)
    (hformal : ∀ actual ∈ arguments.named, ∃ formal ∈ signature.named, formal.name = actual.name)
    (hdistinct : (arguments.named.map (·.name)).Nodup)
    (hentry : ∀ index named, arguments.named[index]? = some named →
      entry index = some (named.position, named.name))
    (hstart : Placing closure.formals arguments 0 placed) :
    ∃ final, placeNamed closure.formals arguments.count (arguments.count - 1) entry
        arguments.namedCount placed = .ok final ∧
      Placing closure.formals arguments arguments.namedCount final := by
  refine loop_progress (fun turn placed => Placing closure.formals arguments turn placed) hstart
    fun turn before hturn hbefore => ?_
  rw [← harguments.named] at hturn
  have hget := List.getElem?_eq_getElem hturn
  generalize arguments.named[turn] = named at hget
  have hmem := mem_of_getElem? hget
  obtain ⟨hhas, hfixed⟩ := hnamed (ne_nil_of_mem hmem)
  obtain ⟨formal, hmemFormal, hname⟩ := hformal named hmem
  obtain ⟨place, hplace⟩ := mem_iff_getElem?.mp hmemFormal
  have hfound := hsame.namedFormal_of_mem hhas hformals hplace
  rw [hname] at hfound
  generalize place + signature.counts.fixedUser = target at hfound
  have htarget := hsame.fixed_le hhas hfound
  have hposition : arguments.positionalCount ≤ named.position ∧
      named.position < arguments.positionalCount + arguments.namedCount :=
    mem_range'_1.mp (harguments.places.mem_iff.mp (mem_map_of_mem hmem))
  have hcount : arguments.namedCount = arguments.count - arguments.positionalCount := rfl
  have hpositional := harguments.positional
  have hbound : arguments.count ≤ 65536 := harguments.bound
  -- A formal that is taken has been named before, and no name comes twice.
  have hfree : ¬ 0 ≤ before target := by
    intro htaken
    obtain hlow | ⟨index, hindex, other, hother, hsameFormal⟩ := hbefore.only target htaken
    · omega
    · obtain ⟨found, hfoundAt, hfoundName⟩ := namedFormal_name hfound
      obtain ⟨found', hfoundAt', hfoundName'⟩ := namedFormal_name hsameFormal
      obtain rfl := Option.some.inj (hfoundAt.symm.trans hfoundAt')
      have hnames : other.name = named.name := hfoundName'.symm.trans hfoundName
      obtain ⟨hindexBound, hotherAt⟩ := List.getElem?_eq_some_iff.mp hother
      obtain ⟨_, hnamedAt⟩ := List.getElem?_eq_some_iff.mp hget
      have hplaces := @List.Nodup.getElem_inj_iff _ _ hdistinct index
        (by rwa [length_map]) turn (by rwa [length_map])
      rw [getElem_map, getElem_map, hotherAt, hnamedAt] at hplaces
      exact absurd (hplaces.mp hnames) (Nat.ne_of_lt hindex)
  have hactual : toInt32 (named.position - 1) = ((named.position - 1 : Nat) : Int) :=
    toInt32_of_lt (by omega)
  have hturnOk : placeNamedEntry closure.formals arguments.count (arguments.count - 1) entry before
      turn = .ok (Function.update before target ((named.position - 1 : Nat) : Int)) := by
    unfold placeNamedEntry
    rw [hentry turn named hget]
    dsimp only
    rw [if_neg (by omega), hfound]
    dsimp only
    rw [if_neg (by omega), hactual]
  refine ⟨_, hturnOk, ?_⟩
  constructor
  case positional =>
    intro other hother
    rw [Function.update_of_ne (by omega)]
    exact hbefore.positional other hother
  case taken =>
    intro index hindex other hother
    rcases Nat.lt_succ_iff_lt_or_eq.mp hindex with hearlier | rfl
    · obtain ⟨found, hfoundOther, hplaced⟩ := hbefore.taken index hearlier other hother
      refine ⟨found, hfoundOther, ?_⟩
      rw [Function.update_of_ne]
      · exact hplaced
      · rintro rfl
        exact hfree hplaced
    · obtain rfl := Option.some.inj (hget.symm.trans hother)
      refine ⟨target, hfound, ?_⟩
      rw [Function.update_self]
      exact Int.natCast_nonneg _
  case only =>
    intro other hother
    by_cases heq : other = target
    · subst heq
      exact Or.inr ⟨turn, Nat.lt_succ_self turn, named, hget, hfound⟩
    · rw [Function.update_of_ne heq] at hother
      refine (hbefore.only other hother).imp_right ?_
      rintro ⟨index, hindex, htaken⟩
      exact ⟨index, Nat.lt_succ_of_lt hindex, htaken⟩
  case bound =>
    intro other
    by_cases heq : other = target
    · subst heq
      rw [Function.update_self]
      omega
    · rw [Function.update_of_ne heq]
      exact hbefore.bound other

theorem checkFormals_ok {hasNamed : Bool} {index : Nat} {formals : List DartClosureFormalLayout}
    (h : ∀ offset formal, formals[offset]? = some formal →
      (formal.isRequired = true → 0 ≤ placed (index + offset)) ∧
        (formal.kind = .named → hasNamed = true)) :
    checkFormals hasNamed placed index formals = .ok () := by
  induction formals generalizing index with
  | nil => rfl
  | cons formal rest ih =>
    obtain ⟨hrequired, hkind⟩ := h 0 formal rfl
    rw [checkFormals, if_neg ?_, if_neg ?_]
    · refine ih fun offset other hother => ?_
      have hshift : index + 1 + offset = index + (offset + 1) := by omega
      rw [hshift]
      exact h (offset + 1) other hother
    · rintro ⟨hnamed, hplain⟩
      exact Bool.false_ne_true (hplain.symm.trans (hkind hnamed))
    · rintro ⟨hflag, hmissing⟩
      exact absurd (hrequired hflag) (Int.not_le.mpr hmissing)

theorem mapFormals_ok {userArgumentCount : Nat} (huser : userArgumentCount ≤ 65536)
    (hbound : ∀ formal, placed formal < userArgumentCount) (index : Nat)
    (parameters : List DartParameterLayout) :
    ∃ mapped, mapFormals userArgumentCount placed index parameters = .ok mapped := by
  induction parameters generalizing index with
  | nil => exact ⟨[], rfl⟩
  | cons parameter rest ih =>
    obtain ⟨mapped, hmapped⟩ := ih (index + 1)
    rw [mapFormals, hmapped]
    split
    · exact ⟨_, rfl⟩
    next hplaced =>
      have hlow := hbound index
      rw [if_neg ?_]
      · exact ⟨_, rfl⟩
      · rw [Int.emod_eq_of_lt (by omega) (by omega)]
        omega

end Loops

/-! ## One call on both sides -/

/-- What the proof of a closure call is about, and where its objects are. -/
structure ClosureCallProof where
  profile : HeapProfile
  image : Image
  heapBase : BitVec 64
  function : BitVec 64
  descriptor : BitVec 64
  typeArguments : BitVec 64

/-- The relation is proved. -/
def ClosureCallProof.proves (proof : ClosureCallProof) : Bool :=
  proveClosureCallRelation proof.profile proof.image proof.heapBase proof.function proof.descriptor
    proof.typeArguments

/-- The number of the address of a named entry, without a turn around the address space. -/
def ClosureCallProof.entry (proof : ClosureCallProof) (index : Nat) : Nat :=
  (untag proof.profile proof.descriptor).toNat +
    proof.profile.argumentsDescriptor.firstNamedEntryOffset +
      index * proof.profile.argumentsDescriptor.namedEntrySize

/-- An invocation of a closure. -/
structure ClosureInvocation where
  invocation : Invocation
  state : InvocationState
  layout : DartCallLayout
  closure : DartClosureSignatureLayout
  callProfile : RuntimeProfileRecord
  objectProfile : RuntimeProfileRecord

/-- `DARTPLANT_DART_PARAMETER_NAME_MAX`. -/
def dartParameterNameMax : Nat := 160

/-- The invocation enters the call that is proved: its layout was made from the same signature, its
profiles have the same offsets, and it reads the same memory. -/
structure SameClosureCall (proof : ClosureCallProof) (signature : FunctionTypeDetails)
    (arguments : ArgumentsDescriptorDetails) (call : ClosureInvocation) : Prop where
  fresh : call.state.closureMapping.attempted = false
  layout : call.invocation.callLayout = some call.layout
  closure : call.layout.closureSignature = some call.closure
  flags : call.layout.hasClosureReceiver = true ∧ call.layout.hasArgumentsDescriptor = true
  parameters : call.layout.parameters.length = call.closure.formals.length
  signature : SameSignature call.closure signature
  entered : call.invocation.hasContext = true ∧ call.invocation.hasFunction = true ∧
    call.invocation.phase = .enter ∧ call.invocation.profile.isSome = true
  profiles : call.layout.vmCallProfile = some call.callProfile ∧
    call.layout.vmObjectProfile = some call.objectProfile
  offsets : (call.invocation.callObjectLayout call.callProfile).argumentsDescriptor =
    proof.profile.argumentsDescriptor
  tags : (call.invocation.callObjectLayout call.objectProfile).rawObject = proof.profile.rawObject
  arrays : (call.invocation.callObjectLayout call.objectProfile).cidArray = proof.profile.cidArray ∧
    (call.invocation.callObjectLayout call.objectProfile).cidImmutableArray =
      proof.profile.cidImmutableArray
  -- What the registration of a profile checks.
  verified : proof.profile.argumentsDescriptor.namedEntrySize ≠ 0 ∧
    proof.profile.rawObject.classIdTagShift < 64 - proof.profile.rawObject.classIdTagBits
  descriptor : readVerifiedLocation call.invocation call.state
    call.layout.argumentsDescriptorLocation false = some proof.descriptor
  typeArguments : arguments.typeArgsLen ≠ 0 → readVerifiedLocation call.invocation call.state
    (.entryStack (arguments.count * 8)) false = some proof.typeArguments
  memory : ∀ address size, readSelfValue call.invocation call.state address size =
    readSelf proof.image address size
  strings : ∀ tagged, call.invocation.dartString call.objectProfile call.state.memory tagged =
    readDartString proof.profile proof.image tagged dartParameterNameMax
  heapBase : readLiveVmHeapBase call.invocation call.state call.callProfile = some proof.heapBase
  descriptorProof : call.invocation.descriptorProof proof.descriptor = .ok ()
  -- The proof of the adapter is the relation itself.
  callProof : proof.proves = true →
    call.invocation.closureCallProof proof.descriptor proof.typeArguments = .ok ()

/-- The mapping can read the entry too: it lies below the end of the address space, and its name fits
the smaller buffer. -/
structure EntryFits (proof : ClosureCallProof) (index : Nat) : Prop where
  nameInside : proof.entry index + proof.profile.argumentsDescriptor.nameOffset < 2 ^ 64
  positionInside : proof.entry index + proof.profile.argumentsDescriptor.positionOffset < 2 ^ 64
  name : ∃ taggedName name, readCompressedObject proof.profile proof.image proof.heapBase
      (namedEntry proof.profile (untag proof.profile proof.descriptor) index)
      proof.profile.argumentsDescriptor.nameOffset = some taggedName ∧
    readDartString proof.profile proof.image taggedName dartParameterNameMax = some name

section Same
variable {proof : ClosureCallProof} {signature : FunctionTypeDetails}
  {arguments : ArgumentsDescriptorDetails} {call : ClosureInvocation}

theorem isHeapWord_untag {profile : HeapProfile} {heapBase tagged : BitVec 64}
    (h : taggedInHeapWindow profile heapBase tagged = true) :
    isHeapWord profile.rawObject tagged = true ∧ tagged ≠ 0 ∧
      untag profile tagged = tagged - BitVec.ofNat 64 profile.rawObject.heapObjectTag ∧
        (untag profile tagged).toNat = tagged.toNat - profile.rawObject.heapObjectTag := by
  unfold taggedInHeapWindow at h
  simp only [Bool.and_eq_true, decide_eq_true_eq] at h
  obtain ⟨⟨⟨⟨hbase, hobject⟩, hsum⟩, hlow⟩, hhigh⟩ := h
  have hword : isHeapWord profile.rawObject tagged = true := hobject
  have htag : ¬ tagged.toNat < profile.rawObject.heapObjectTag := by omega
  have hvalue : untag profile tagged =
      tagged - BitVec.ofNat 64 profile.rawObject.heapObjectTag := if_neg htag
  have htagged := tagged.isLt
  refine ⟨hword, ?_, hvalue, ?_⟩
  · rintro rfl
    refine hbase (BitVec.eq_of_toNat_eq ?_)
    have hzero : (0 : BitVec 64).toNat = 0 := rfl
    rw [hzero] at hlow ⊢
    omega
  · rw [hvalue, BitVec.toNat_sub_of_le ?_, BitVec.toNat_ofNat, Nat.mod_eq_of_lt (by omega)]
    rw [BitVec.le_def, BitVec.toNat_ofNat, Nat.mod_eq_of_lt (by omega)]
    omega

variable (h : SameClosureCall proof signature arguments call)
include h

theorem SameClosureCall.counter {address : BitVec 64} {value : Nat}
    (hread : readPositiveSmi proof.profile proof.image address = some value) :
    readPositiveCompressedSmi call.invocation call.state address proof.profile.rawObject =
      some value := by
  unfold readPositiveSmi at hread
  simp only [bind_eq_bind, bind_eq_some_iff, guard_eq_some'] at hread
  obtain ⟨-, hsize, raw, hraw, hdecoded⟩ := hread
  have hshift : proof.profile.rawObject.smiTagShift < 32 := by
    by_contra hlarge
    unfold decodePositiveCompressedSmi at hdecoded
    rw [if_pos (Or.inr (Or.inl (Nat.not_lt.mp hlarge)))] at hdecoded
    cases hdecoded
  unfold readPositiveCompressedSmi
  rw [if_neg (by omega), if_pos hsize, h.memory, hraw]
  exact hdecoded

variable (hread : DescriptorRead proof.profile proof.image proof.heapBase proof.descriptor arguments)
include hread

/-- The mapping reads the same descriptor. -/
theorem SameClosureCall.getArgumentsDescriptor :
    DartPlant.getArgumentsDescriptor call.invocation call.state =
      .ok ⟨proof.descriptor, arguments.typeArgsLen, arguments.count, arguments.size,
        arguments.positionalCount, arguments.namedCount⟩ := by
  obtain ⟨hword, hnonzero, huntag, -⟩ := isHeapWord_untag hread.window
  obtain ⟨hcontext, hfunction, hphase, -⟩ := h.entered
  obtain ⟨hcall, hobject⟩ := h.profiles
  obtain ⟨harray, himmutable⟩ := h.arrays
  obtain ⟨cid, hcid, hisArray⟩ := hread.cid
  unfold readCid at hcid
  simp only [bind_eq_bind, bind_eq_some_iff, guard_eq_some'] at hcid
  obtain ⟨-, ⟨hbits, hbitsBound, -⟩, header, hheader, hvalue⟩ := hcid
  have hlayout : descriptorLayout call.invocation = .ok (call.layout,
      call.invocation.callObjectLayout call.callProfile,
      call.invocation.callObjectLayout call.objectProfile) := by
    unfold descriptorLayout
    rw [h.layout]
    dsimp only
    rw [if_neg ?_, if_neg (not_not.mpr hphase), hcall, hobject]
    rw [hcontext, h.flags.2, hfunction]
    decide
  have hdescriptor : descriptorWord call.invocation call.state call.layout
      (call.invocation.callObjectLayout call.objectProfile) = .ok proof.descriptor := by
    unfold descriptorWord
    rw [h.descriptor]
    dsimp only
    rw [h.tags, hword, if_neg ?_]
    rintro (hzero | hplain)
    · exact hnonzero hzero
    · exact Bool.false_ne_true hplain.symm
  have hproof : proveDescriptor call.invocation call.layout proof.descriptor = .ok () := by
    unfold proveDescriptor
    rw [h.descriptorProof, ite_self]
  have haddress : descriptorAddress call.invocation call.state
      (call.invocation.callObjectLayout call.objectProfile) proof.descriptor =
        .ok (untag proof.profile proof.descriptor) := by
    have hverified := h.verified.2
    unfold descriptorAddress
    dsimp only
    rw [h.tags, if_neg (by omega), ← huntag, h.memory, hheader]
    dsimp only
    rw [harray, himmutable, if_neg ?_]
    rw [← Option.some.inj hvalue] at hisArray
    exact fun hother => hisArray.elim hother.1 hother.2
  have hcounters : descriptorCounters call.invocation call.state
      (call.invocation.callObjectLayout call.callProfile).argumentsDescriptor
      (call.invocation.callObjectLayout call.objectProfile).rawObject proof.descriptor
      (untag proof.profile proof.descriptor) = some ⟨proof.descriptor, arguments.typeArgsLen,
        arguments.count, arguments.size, arguments.positionalCount, arguments.namedCount⟩ := by
    obtain ⟨-, -, hpositional, hcount⟩ := hread.counters
    unfold descriptorCounters
    rw [h.offsets, h.tags]
    simp only [bind_eq_bind, bind_eq_some_iff, guard_eq_some']
    exact ⟨_, h.counter hread.typeArgsLen, _, h.counter hread.count, _, h.counter hread.size, _,
      h.counter hread.positionalCount, (), ⟨hpositional, hcount⟩, rfl⟩
  have harity (info : ArgumentsDescriptorInfo) : checkFixedArity call.layout info = .ok () := by
    unfold checkFixedArity
    rw [h.closure, if_neg (fun hnone => some_ne_none _ hnone.2)]
  unfold DartPlant.getArgumentsDescriptor
  rw [hlayout]
  show (descriptorWord _ _ _ _).bind _ = _
  rw [hdescriptor]
  show (proveDescriptor _ _ _).bind _ = _
  rw [hproof]
  show (descriptorAddress _ _ _ _).bind _ = _
  rw [haddress]
  dsimp only [Except.bind]
  rw [hcounters]
  show (checkFixedArity _ _).bind _ = _
  rw [harity]
  rfl

omit h hread in
theorem ClosureCallProof.ofNat_entry (proof : ClosureCallProof) (index offset : Nat) :
    BitVec.ofNat 64 (proof.entry index + offset) =
      namedEntry proof.profile (untag proof.profile proof.descriptor) index +
        BitVec.ofNat 64 offset := by
  unfold ClosureCallProof.entry namedEntry
  rw [BitVec.ofNat_add, BitVec.ofNat_add, BitVec.ofNat_add, BitVec.ofNat_toNat, BitVec.setWidth_eq]

/-- An entry that the mapping reads fits. -/
theorem SameClosureCall.fits {index : Nat} {result : Nat × String}
    (hentry : readDescriptorNamedEntry call.invocation call.state index = some result) :
    EntryFits proof index := by
  obtain ⟨-, -, -, hnumber⟩ := isHeapWord_untag hread.window
  unfold readDescriptorNamedEntry at hentry
  rw [h.layout] at hentry
  simp only [Option.bind_some, bind_eq_bind, h.profiles.1, h.profiles.2, h.descriptor,
    h.heapBase, h.offsets, h.tags, h.memory, ← hnumber, h.strings, bind_eq_some_iff,
    guard_eq_some'] at hentry
  obtain ⟨-, -, -, -, -, ⟨hsize, -⟩, -, ⟨hname, hposition⟩, compressed, hcompressed, -, -, -, htag, -,
    -, -, hwrap, text, htext, -⟩ := hentry
  refine ⟨hname, hposition, _, text, ?_, htext⟩
  unfold readCompressedObject decompress
  simp only [bind_eq_bind, bind_eq_some_iff, guard_eq_some']
  refine ⟨(), hsize, compressed, ?_, (), ⟨htag, hwrap⟩, rfl⟩
  rw [← proof.ofNat_entry]
  exact hcompressed

/-- An entry that fits is read as the proof has read it. -/
theorem SameClosureCall.readDescriptorNamedEntry
    {index : Nat} {named : DescriptorNamed} (hnamed : arguments.named[index]? = some named)
    (hfits : EntryFits proof index) :
    DartPlant.readDescriptorNamedEntry call.invocation call.state index =
      some (named.position, named.name) := by
  obtain ⟨hword, -, -, hnumber⟩ := isHeapWord_untag hread.window
  obtain ⟨hcontext, hfunction, -, hprofile⟩ := h.entered
  obtain ⟨taggedName, htagged, hname, hposition⟩ := hread.entries.entry index named hnamed
  obtain ⟨hnameInside, hpositionInside, taggedName', shortName, htagged', hshort⟩ := hfits
  obtain rfl := Option.some.inj (htagged.symm.trans htagged')
  have hsame := readDartString_mono (by decide : dartParameterNameMax ≤ 256) hshort
  obtain rfl := Option.some.inj (hname.symm.trans hsame)
  unfold readCompressedObject decompress at htagged
  unfold readPositiveSmi at hposition
  simp only [bind_eq_bind, bind_eq_some_iff, guard_eq_some'] at htagged hposition
  obtain ⟨-, hsize, compressed, hcompressed, -, ⟨htag, hwrap⟩, htagged⟩ := htagged
  obtain ⟨-, -, raw, hraw, hdecoded⟩ := hposition
  obtain rfl := Option.some.inj htagged
  rw [← proof.ofNat_entry] at hcompressed hraw
  unfold DartPlant.readDescriptorNamedEntry
  rw [h.layout]
  simp only [Option.bind_some, bind_eq_bind, h.profiles.1, h.profiles.2, h.descriptor,
    h.heapBase, h.offsets, h.tags, h.memory, ← hnumber, h.strings, bind_eq_some_iff,
    guard_eq_some']
  exact ⟨(), ⟨hprofile, hcontext, hfunction⟩, (), h.verified.1, (), ⟨hsize, hword⟩, (),
    ⟨hnameInside, hpositionInside⟩, compressed, hcompressed, raw, hraw, (), htag, _, hdecoded, (),
    hwrap, named.name, hshort, rfl⟩

omit h hread in
/-- The formals of an accepted call that are required have their arguments. -/
theorem SameSignature.required {closure : DartClosureSignatureLayout} {placed : ActualForFormal}
    (h : SameSignature closure signature)
    (hcall : CallShape proof.profile proof.image proof.heapBase proof.typeArguments signature
      arguments)
    (harguments : arguments.WellFormed) (hformals : (signature.named.map (·.name)).Nodup)
    (hplaced : Placing closure.formals arguments arguments.namedCount placed) {offset : Nat}
    {formal : DartClosureFormalLayout} (hformal : closure.formals[offset]? = some formal) :
    (formal.isRequired = true → 0 ≤ placed (0 + offset)) ∧
      (formal.kind = .named → closure.hasNamedOptionalParameters = true) := by
  rw [Nat.zero_add, h.hasNamed]
  have hshape : (formalShapes signature)[offset]? = some formal.shape := by
    rw [← h.formals, List.getElem?_map, hformal]
    rfl
  unfold formalShapes at hshape
  rw [List.getElem?_append, length_replicate] at hshape
  split at hshape
  next hfixed =>
    have hplain := eq_of_mem_replicate (mem_of_getElem? hshape)
    refine ⟨fun _ => hplaced.positional offset (Nat.lt_of_lt_of_le hfixed hcall.fixed), ?_⟩
    intro hkind
    cases hkind.symm.trans (congrArg Prod.fst hplain)
  next hbeyond =>
    split at hshape
    next hnamed =>
      refine ⟨fun hrequired => ?_, fun _ => hnamed⟩
      rw [List.getElem?_map] at hshape
      obtain ⟨expected, hexpected, hsame⟩ := map_eq_some_iff.mp hshape
      have hflag : expected.required = true :=
        (congrArg (fun shape => shape.2.1) hsame).trans hrequired
      obtain ⟨actual, hactual, hname⟩ :=
        hcall.required expected (mem_of_getElem? hexpected) hflag
      obtain ⟨index, hindex⟩ := mem_iff_getElem?.mp hactual
      have hturn := (List.getElem?_eq_some_iff.mp hindex).1
      rw [harguments.named] at hturn
      obtain ⟨place, hplace, htaken⟩ := hplaced.taken index hturn actual hindex
      rw [hname, h.namedFormal_of_mem hnamed hformals hexpected] at hplace
      obtain rfl := Option.some.inj hplace
      rwa [Nat.sub_add_cancel (Nat.not_lt.mp hbeyond)] at htaken
    next hplain =>
      have hoptional := eq_of_mem_replicate (mem_of_getElem? hshape)
      refine ⟨fun hrequired => ?_, fun hkind => ?_⟩
      · cases hrequired.symm.trans (congrArg (fun shape => shape.2.1) hoptional)
      · cases hkind.symm.trans (congrArg Prod.fst hoptional)

omit hread in
/-- Every argument of an accepted call with different names finds its formal. -/
theorem SameClosureCall.placeArguments
    (hsignature : signature.WellFormed) (harguments : arguments.WellFormed)
    (hcall : CallShape proof.profile proof.image proof.heapBase proof.typeArguments signature
      arguments) (hformals : (signature.named.map (·.name)).Nodup)
    (hdistinct : (arguments.named.map (·.name)).Nodup) {entry : Nat → Option (Nat × String)}
    (hentry : ∀ index named, arguments.named[index]? = some named →
      entry index = some (named.position, named.name)) :
    ∃ placed, DartPlant.placeArguments call.closure
        ⟨proof.descriptor, arguments.typeArgsLen, arguments.count, arguments.size,
          arguments.positionalCount, arguments.namedCount⟩ entry = .ok placed ∧
      Placing call.closure.formals arguments arguments.namedCount placed := by
  have hsame := h.signature
  have hfixedBound := hsignature.fixedBound
  have hoptionalBound := hsignature.optionalBound
  have hfixed : signature.counts.fixedUser ≤ signature.counts.fixedParameterCount := Nat.sub_le _ _
  have huser : call.closure.fixedParameterCount - call.closure.implicitParameterCount =
      signature.counts.fixedUser := by
    rw [hsame.fixed, hsame.implicit, Nat.add_sub_cancel]
  have hlimit : (signature.counts.fixedUser + if call.closure.hasNamedOptionalParameters then 0
      else call.closure.optionalParameterCount) % 2 ^ 32 =
      signature.counts.fixedUser + if signature.counts.hasNamedOptionalParameters then 0
        else signature.counts.optionalParameterCount := by
    rw [hsame.hasNamed, hsame.optional]
    split <;> omega
  obtain ⟨positional, hpositional, hstart⟩ := @placePositional_ok arguments call.closure.formals _
    hcall.positional hcall.receiver harguments
  obtain ⟨placed, hnamed, hplaced⟩ := placeNamed_ok hsame harguments hcall.receiver
    (fun hsome => ⟨hcall.onlyNamed hsome, by
      have hhigh := hcall.positional
      rw [hcall.onlyNamed hsome, if_pos rfl] at hhigh
      have := hcall.fixed
      omega⟩) hformals hcall.formal hdistinct hentry hstart
  refine ⟨placed, ?_, hplaced⟩
  have hcheck := @checkFormals_ok placed call.closure.hasNamedOptionalParameters 0
    call.closure.formals fun offset formal hformal =>
      hsame.required hcall harguments hformals hplaced hformal
  unfold DartPlant.placeArguments
  dsimp only
  rw [huser, hlimit, hpositional]
  show (placeNamed _ _ _ _ _ _).bind _ = _
  rw [hnamed]
  show (checkFormals _ _ _ _).bind _ = _
  rw [hcheck]
  rfl

/-- An accepted call is mapped, where its names are different and its entries fit. -/
theorem SameClosureCall.mapClosureArguments (hsignature : signature.WellFormed)
    (hproves : proof.proves = true)
    (hcall : AcceptedCall proof.profile proof.image proof.heapBase proof.typeArguments signature
      arguments) (hformals : (signature.named.map (·.name)).Nodup)
    (hdistinct : (arguments.named.map (·.name)).Nodup)
    (hfits : ∀ index < arguments.namedCount, EntryFits proof index) :
    ∃ mapped, DartPlant.mapClosureArguments call.invocation call.state call.layout call.closure =
      .ok mapped := by
  have harguments := hread.wellFormed
  have hsame := h.signature
  have hfixedBound := hsignature.fixedBound
  have hoptionalBound := hsignature.optionalBound
  have hfixed : signature.counts.fixedUser ≤ signature.counts.fixedParameterCount := Nat.sub_le _ _
  have hlength := hsame.length hsignature
  have hcountBound : arguments.count ≤ 65536 := harguments.bound
  have hnamedCount : arguments.namedCount = arguments.count - arguments.positionalCount := rfl
  have hshape : checkClosureShape call.layout call.closure = .ok () := by
    unfold checkClosureShape
    rw [if_neg ?_]
    rw [h.flags.1, h.flags.2, hsame.implicit, hsame.fixed, hsame.optional, h.parameters, hlength]
    simp only [Bool.true_eq_false, false_or]
    omega
  have hdescriptor : checkDescriptorShape call.closure ⟨proof.descriptor, arguments.typeArgsLen,
      arguments.count, arguments.size, arguments.positionalCount, arguments.namedCount⟩ =
        .ok () := by
    obtain ⟨⟨hsize, hreceiver, hgeneric, -, hlow, hhigh, honly, -, -, -⟩, hfew⟩ := hcall
    have hpositional := harguments.positional
    have hactuals := harguments.named
    have hnames := hsignature.named
    unfold checkDescriptorShape
    dsimp only
    rw [hsame.fixed, hsame.implicit, hsame.optional, hsame.hasNamed, hsame.typeParameters, hlength,
      Nat.add_sub_cancel, if_neg (by omega)]
    cases hhas : signature.counts.hasNamedOptionalParameters with
    | false =>
      have hnil : arguments.named = [] := by
        by_contra hsome
        exact absurd (honly hsome) (hhas ▸ Bool.false_ne_true)
      rw [hnil, length_nil] at hactuals
      rw [hhas, if_neg Bool.false_ne_true] at hhigh
      rw [if_neg ?_, if_neg (by omega)]
      simp only [Bool.false_eq_true, true_and, false_and, false_or]
      omega
    | true =>
      rw [hhas, if_pos rfl] at hhigh hnames
      rw [if_neg ?_, if_neg (by omega)]
      simp only [Bool.true_eq_false, true_and, false_and, false_or]
      omega
  obtain ⟨placed, hplace, hplaced⟩ := h.placeArguments hsignature harguments hcall.toCallShape
    hformals hdistinct fun index named hnamed => by
      have hindex := (List.getElem?_eq_some_iff.mp hnamed).1
      rw [harguments.named] at hindex
      exact h.readDescriptorNamedEntry hread hnamed (hfits index hindex)
  have hlocate : ∃ location, locateTypeArguments call.invocation call.state ⟨proof.descriptor,
      arguments.typeArgsLen, arguments.count, arguments.size, arguments.positionalCount,
      arguments.namedCount⟩ = .ok (location, proof.typeArguments) := by
    have hvector := hcall.typeArguments
    unfold suppliesTypeArguments at hvector
    unfold locateTypeArguments
    dsimp only
    split
    next hplain =>
      rw [if_pos hplain] at hvector
      rw [beq_iff_eq.mp hvector]
      exact ⟨_, rfl⟩
    next hgeneric =>
      rw [if_neg (by omega), h.typeArguments hgeneric]
      exact ⟨_, rfl⟩
  obtain ⟨location, hlocate⟩ := hlocate
  have hbelow (formal : Nat) : placed formal < ((arguments.count - 1 : Nat) : Int) := by
    have hbound := hplaced.bound formal
    have hreceiver := hcall.receiver
    have hpositional := harguments.positional
    omega
  obtain ⟨mapped, hmapped⟩ := @mapFormals_ok placed (arguments.count - 1) (by omega) hbelow 0
    call.layout.parameters
  refine ⟨(mapped, location), ?_⟩
  unfold DartPlant.mapClosureArguments
  rw [hshape, h.getArgumentsDescriptor hread]
  show (checkDescriptorShape _ _).bind _ = _
  rw [hdescriptor]
  show (DartPlant.placeArguments _ _ _).bind _ = _
  rw [hplace]
  show (locateTypeArguments _ _ _).bind _ = _
  rw [hlocate]
  dsimp only [Except.bind]
  rw [h.callProof hproves, hmapped]
  split <;> rfl

/-- A mapping that succeeds has found a formal of its own for every name. -/
theorem SameClosureCall.of_mapClosureArguments {mapped : List DartParameterLayout × DartAbiLocation}
    (hmapped : DartPlant.mapClosureArguments call.invocation call.state call.layout call.closure =
      .ok mapped) : (arguments.named.map (·.name)).Nodup ∧
      ∀ index < arguments.namedCount, EntryFits proof index := by
  obtain ⟨placed, hrun⟩ := mapClosureArguments_run (h.getArgumentsDescriptor hread) hmapped
  have hfits : ∀ index < arguments.namedCount, EntryFits proof index := by
    intro index hindex
    obtain ⟨formal, actual, ⟨name, hentry, -⟩, -⟩ := hrun.named.taken index hindex
    exact h.fits hread hentry
  refine ⟨?_, hfits⟩
  have htakes : ∀ index named, arguments.named[index]? = some named → ∃ formal actual,
      namedFormal call.closure.formals named.name = some formal ∧
        Takes call.closure.formals (DartPlant.readDescriptorNamedEntry call.invocation call.state)
          index formal actual := by
    intro index named hnamed
    have hindex := (List.getElem?_eq_some_iff.mp hnamed).1
    rw [hread.wellFormed.named] at hindex
    obtain ⟨formal, actual, htake, -⟩ := hrun.named.taken index hindex
    obtain ⟨name, hentry, hformal⟩ := htake
    have hsame := h.readDescriptorNamedEntry hread hnamed (hfits index hindex)
    rw [hsame] at hentry
    obtain ⟨-, rfl⟩ := Prod.mk.inj (Option.some.inj hentry)
    exact ⟨formal, actual, hformal, named.name, hsame.trans hentry, hformal⟩
  rw [nodup_iff_getElem?_ne_getElem?]
  intro index other hearlier hother
  rw [length_map] at hother
  have hindex := Nat.lt_trans hearlier hother
  rw [List.getElem?_map, List.getElem?_map, List.getElem?_eq_getElem hother,
    List.getElem?_eq_getElem hindex]
  intro hname
  obtain ⟨formal, actual, hformal, htake⟩ := htakes index _ (List.getElem?_eq_getElem hindex)
  obtain ⟨formal', actual', hformal', htake'⟩ := htakes other _ (List.getElem?_eq_getElem hother)
  have hsame : arguments.named[index].name = arguments.named[other].name := Option.some.inj hname
  rw [hsame] at hformal
  obtain rfl := Option.some.inj (hformal.symm.trans hformal')
  rw [hread.wellFormed.named] at hindex hother
  exact absurd (hrun.named.apart index hindex other hother formal actual actual' htake htake')
    (Nat.ne_of_lt hearlier)

/-- The mapping takes the call exactly when its names are different and its entries fit. -/
theorem SameClosureCall.ensure_iff (hsignature : signature.WellFormed)
    (hproves : proof.proves = true)
    (hcall : AcceptedCall proof.profile proof.image proof.heapBase proof.typeArguments signature
      arguments) (hformals : (signature.named.map (·.name)).Nodup) :
    (ensureClosureArgumentMapping call.invocation call.state).1 = .ok () ↔
      (arguments.named.map (·.name)).Nodup ∧
        ∀ index < arguments.namedCount, EntryFits proof index := by
  have hform : (ensureClosureArgumentMapping call.invocation call.state).1 =
      (DartPlant.mapClosureArguments call.invocation call.state call.layout call.closure).map
        fun _ => () := by
    have hboth : (call.invocation.callLayout.bind fun layout =>
        layout.closureSignature.map (layout, ·)) = some (call.layout, call.closure) := by
      rw [h.layout, Option.bind_some, h.closure]
      rfl
    unfold ensureClosureArgumentMapping
    rw [hboth]
    dsimp only
    rw [h.fresh, if_neg Bool.false_ne_true]
    split
    next hmapped => rw [hmapped]; rfl
    next hmapped => rw [hmapped]; rfl
  rw [hform]
  constructor
  · intro hok
    obtain ⟨mapped, hmapped, -⟩ := of_map_ok hok
    exact h.of_mapClosureArguments hread hmapped
  · rintro ⟨hdistinct, hfits⟩
    obtain ⟨mapped, hmapped⟩ := h.mapClosureArguments hread hsignature hproves hcall hformals
      hdistinct hfits
    rw [hmapped]
    rfl

end Same

/-! ## The proof is exact -/

/-- The proof of a closure call accepts the legal calls and no others, and what it accepts is mapped to
the formals of every invocation of that call. -/
def ClosureProofExact (proof : ClosureCallProof) (signature : FunctionTypeDetails)
    (arguments : ArgumentsDescriptorDetails) : Prop :=
  (proof.proves = true ↔ LegalCall proof.profile proof.image proof.heapBase proof.typeArguments
      signature arguments) ∧
    ∀ call, SameClosureCall proof signature arguments call → proof.proves = true →
      (ensureClosureArgumentMapping call.invocation call.state).1 = .ok ()

/-- Exactly for the calls that name no formal twice, as the relation compares no two names of a
descriptor, and whose names fit the buffer of the mapping, which is smaller than that of the proof. -/
theorem closure_proof_exact_iff (proof : ClosureCallProof) (signature : FunctionTypeDetails)
    (arguments : ArgumentsDescriptorDetails)
    (hsignature : readFunctionTypeDetails proof.profile proof.image proof.heapBase proof.function =
      some signature)
    (harguments : readArgumentsDescriptorDetails proof.profile proof.image proof.heapBase
      proof.descriptor = some arguments)
    (hformals : (signature.named.map (·.name)).Nodup) :
    ClosureProofExact proof signature arguments ↔
      (AcceptedCall proof.profile proof.image proof.heapBase proof.typeArguments signature arguments →
        (arguments.named.map (·.name)).Nodup ∧
          ((∃ call, SameClosureCall proof signature arguments call) →
            ∀ index < arguments.namedCount, EntryFits proof index)) := by
  have hwellFormed := readFunctionTypeDetails_wellFormed hsignature
  have hread := readArgumentsDescriptorDetails_read harguments
  have hproves : proof.proves = true ↔ AcceptedCall proof.profile proof.image proof.heapBase
      proof.typeArguments signature arguments := proveClosureCallRelation_iff hsignature harguments
  constructor
  · rintro ⟨hexact, hmapped⟩ haccepted
    have htrue := hproves.mpr haccepted
    refine ⟨(hexact.mp htrue).distinct, ?_⟩
    rintro ⟨call, hsame⟩
    exact ((hsame.ensure_iff hread hwellFormed htrue haccepted hformals).mp
      (hmapped call hsame htrue)).2
  · intro hcondition
    refine ⟨⟨fun htrue => ?_, fun hlegal => hproves.mpr hlegal.accepted⟩, ?_⟩
    · have haccepted := hproves.mp htrue
      exact ⟨haccepted.toCallShape, (hcondition haccepted).1⟩
    · intro call hsame htrue
      have haccepted := hproves.mp htrue
      obtain ⟨hdistinct, hfits⟩ := hcondition haccepted
      exact (hsame.ensure_iff hread hwellFormed htrue haccepted hformals).mpr
        ⟨hdistinct, hfits ⟨call, hsame⟩⟩

/-! ## A name that comes twice -/

/-- The profile of a small heap. -/
def smallHeapProfile : HeapProfile where
  strings := ⟨⟨1, 0, 1, 1, 12, 20, 4⟩, 94, 95, 8, 12⟩
  cidFunction := 7
  cidArray := 90
  cidImmutableArray := 91
  arrayLengthOffset := 8
  arrayElementsOffset := 12
  functionType :=
    { functionSignatureOffset := 8, abstractTypeFlagsOffset := 8, resultTypeOffset := 12,
      parameterTypesOffset := 16, namedParameterNamesOffset := 20, packedParameterCountsOffset := 24,
      packedTypeParameterCountsOffset := 28, cidType := 50, cidFunctionType := 51,
      cidRecordType := 52, cidTypeParameter := 53, cidNull := 54, cidDynamic := 55, cidVoid := 56,
      cidNever := 57, typeParameterBaseOffset := 12, typeParameterIndexOffset := 14,
      nullabilityBits := 1, typeClassIdShift := 4, typeParameterFunctionBit := 1 }
  argumentsDescriptor := ⟨12, 16, 20, 24, 28, 8, 0, 4⟩
  cidTypeArguments := 60
  typeArgumentsLengthOffset := 8

/-- The words of a heap with a closure that has the named formals x and y, and with the descriptor of
a call that names these two. -/
def smallHeapWords (first second : Nat) : List Nat :=
  [7 * 4096, 0, 13,
    51 * 4096, 0, 0, 45, 57, 81, 1 + 2 + 4 + 131072, 0,
    50 * 4096, 0, 16,
    90 * 4096, 0, 6, 45, 45, 45,
    90 * 4096, 0, 6, 105, 121, 0,
    95 * 4096, 0, 2, 0x78,
    95 * 4096, 0, 2, 0x79,
    90 * 4096, 0, 0, 0, 6, 6, 2, first, 2, second, 4]

/-- The heap at four gigabytes. -/
def smallHeap (first second : Nat) : Image := fun address =>
  if address.toNat < 2 ^ 32 then none
  else
    (smallHeapWords first second)[(address.toNat - 2 ^ 32) / 4]?.map fun word =>
      BitVec.ofNat 8 (word / 256 ^ (address.toNat % 4))

/-- The proof of a call with two named arguments. -/
def smallHeapCall (first second : Nat) : ClosureCallProof where
  profile := smallHeapProfile
  image := smallHeap first second
  heapBase := 0x100000000#64
  function := 0x100000001#64
  descriptor := 0x100000089#64
  typeArguments := 0

def smallHeapSignature : FunctionTypeDetails where
  signature := 0x10000000d#64
  counts := ⟨1, true, 1, 2, 0, 0⟩
  named := [⟨"x", false⟩, ⟨"y", false⟩]

def smallHeapArguments (first second : String) : ArgumentsDescriptorDetails where
  typeArgsLen := 0
  count := 3
  size := 3
  positionalCount := 1
  named := [⟨first, 1⟩, ⟨second, 2⟩]

/-- A call that names x twice is proved. -/
theorem closure_proof_not_exact :
    readFunctionTypeDetails (smallHeapCall 105 105).profile (smallHeapCall 105 105).image
        (smallHeapCall 105 105).heapBase (smallHeapCall 105 105).function =
        some smallHeapSignature ∧
      readArgumentsDescriptorDetails (smallHeapCall 105 105).profile (smallHeapCall 105 105).image
        (smallHeapCall 105 105).heapBase (smallHeapCall 105 105).descriptor =
        some (smallHeapArguments "x" "x") ∧
      (smallHeapSignature.named.map (·.name)).Nodup ∧
        ¬ ClosureProofExact (smallHeapCall 105 105) smallHeapSignature
          (smallHeapArguments "x" "x") := by
  refine ⟨by decide +kernel, by decide +kernel, by decide, ?_⟩
  rintro ⟨hexact, -⟩
  have hproves : (smallHeapCall 105 105).proves = true := by decide +kernel
  exact absurd (hexact.mp hproves).distinct (by decide)

/-- The call that names x and y. -/
theorem closure_proof_exact_iff_named :
    ClosureProofExact (smallHeapCall 105 121) smallHeapSignature (smallHeapArguments "x" "y") := by
  refine (closure_proof_exact_iff (smallHeapCall 105 121) smallHeapSignature
    (smallHeapArguments "x" "y") (by decide +kernel) (by decide +kernel) (by decide)).mpr
    fun _ => ⟨by decide, fun _ index hindex => ?_⟩
  have hcases : index = 0 ∨ index = 1 := by
    have hbound : index < 2 := hindex
    omega
  obtain rfl | rfl := hcases
  · exact ⟨by decide +kernel, by decide +kernel, 0x100000069#64, "x", by decide +kernel,
      by decide +kernel⟩
  · exact ⟨by decide +kernel, by decide +kernel, 0x100000079#64, "y", by decide +kernel,
      by decide +kernel⟩

end DartPlant
