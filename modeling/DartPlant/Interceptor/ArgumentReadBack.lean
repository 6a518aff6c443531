import DartPlant.Abi.ArgumentPlaces
import DartPlant.Interceptor.InvocationApi

/-! # Reading arguments back

Arguments at places of their own do not disturb each other: what is written to one is read from it
again, in its canonical form, and from no other (`call_layout_read_back`).  The roots of a bridge
keep this up, since every location has a root of its own.
-/

namespace DartPlant
open ByteMemory DartPlantArm64Context Option

/-! ## Words and their values -/

section Words
variable {values : ValidatedValues} {word : BitVec 64}

theorem isTaggedSmi_eq_not : isTaggedSmi word = !isTaggedHeapObject word := by
  unfold isTaggedSmi isTaggedHeapObject
  have hbit : word &&& 1 = 0 ∨ word &&& 1 = 1 := by
    have hvalue : (word &&& 1).toNat = word.toNat % 2 :=
      (BitVec.toNat_and word 1).trans (Nat.and_one_is_mod _)
    rcases Nat.mod_two_eq_zero_or_one word.toNat with h | h
    · exact Or.inl (BitVec.eq_of_toNat_eq (hvalue.trans h))
    · exact Or.inr (BitVec.eq_of_toNat_eq (hvalue.trans h))
  rcases hbit with h | h <;> rw [h] <;> rfl

/-- A value read from a tagged word is written as that word. -/
theorem encode_decodeTagged :
    encodeGpSemanticValue values (decodeTagged values word) true = .ok word := by
  unfold decodeTagged decodeGpWord
  simp only [Bool.true_eq_false, if_false]
  by_cases hnull : values.null ≠ 0 ∧ word = values.null
  · rw [if_pos hnull]
    have hknown : ¬ values.null = 0#64 := hnull.1
    simp [refineTaggedSemanticValue, encodeGpSemanticValue, encodeGpWord, hnull.2, hknown]
  · rw [if_neg hnull]
    cases hheap : isTaggedHeapObject word with
    | false =>
      simp [refineTaggedSemanticValue, encodeGpSemanticValue, encodeGpWord, isTaggedSmi_eq_not,
        hheap]
    | true =>
      have hraw : encodeGpWord ⟨.heapObject, 0, word⟩ true values.null = .ok word := by
        simp [encodeGpWord, hheap]
      simp only [if_true, refineTaggedSemanticValue, ne_eq, not_true_eq_false, if_false]
      cases hbools : values.bools with
      | none =>
        simpa [encodeGpSemanticValue] using hraw
      | some bools =>
        obtain ⟨boolTrue, boolFalse⟩ := bools
        dsimp only
        split
        next htrue =>
          subst htrue
          simpa [encodeGpSemanticValue, hbools] using hraw
        split
        next hfalse =>
          subst hfalse
          simpa [encodeGpSemanticValue, hbools] using hraw
        · simpa [encodeGpSemanticValue] using hraw

theorem encode_decodeVerifiedWord {representation : DartAbiRepresentation} {value : DartPlantValue}
    (h : decodeVerifiedWord values word representation = .ok value) :
    encodeVerifiedWord values value representation = .ok word := by
  cases representation with
  | tagged =>
    obtain rfl := Except.ok.inj h
    exact encode_decodeTagged
  | unboxedInt64 | unboxedDouble =>
    obtain rfl := Except.ok.inj h
    rfl
  | pairOfTagged | unknown => cases h

end Words

/-! ## Places apart -/

/-- A place of an argument: a register other than the stack register, or a word of the stack
area. -/
def ArgumentLocation (stackRegister stackWords : Nat) : DartAbiLocation → Prop
  | .gpRegister index => index ≠ stackRegister
  | .fpuRegister _ => True
  | .entryStack offset => ∃ slot < stackWords, offset = (slot : Int) * 8
  | .unknown => False

section Places
variable {invocation : Invocation} {state : InvocationState} {layout : DartCallLayout}
  {stackWords : Nat} {location other : DartAbiLocation} {value : BitVec 64}

/-- Two words of a stack area that fits 32-bit offsets have no byte in common. -/
theorem slots_apart {base : BitVec 64} {slot slot' : Nat} (hsmall : 8 * stackWords ≤ 2147483648)
    (hslot : slot < stackWords) (hslot' : slot' < stackWords) (hne : slot ≠ slot') :
    WordsApart (base + BitVec.ofInt 64 ((slot : Int) * 8))
      (base + BitVec.ofInt 64 ((slot' : Int) * 8)) := by
  have hoffset : ∀ slot : Nat, BitVec.ofInt 64 ((slot : Int) * 8) = BitVec.ofNat 64 (slot * 8) := by
    intro slot
    have hcast : (slot : Int) * 8 = ((slot * 8 : Nat) : Int) := by push_cast; rfl
    simp only [hcast, BitVec.ofInt_natCast]
  rw [hoffset, hoffset]
  unfold WordsApart gap
  constructor <;> bv_omega

/-- The stack area stays where it is. -/
theorem entryStackAddress_setX {context : DartPlantArm64Context} {index : Nat} {offset : Int}
    (hlayout : invocation.callLayout = some layout) (hindex : index ≠ layout.dartSpRegister) :
    entryStackAddress invocation (context.setX index value) offset =
      entryStackAddress invocation context offset := by
  simp only [entryStackAddress, hlayout, setX,
    Function.update_of_ne hindex.symm]

theorem entryStackAddress_setV {context : DartPlantArm64Context} {index : Nat} {offset : Int} :
    entryStackAddress invocation (context.setV index value) offset =
      entryStackAddress invocation context offset := by
  have hx : (context.setV index value).x = context.x := rfl
  rw [entryStackAddress, hx, entryStackAddress]

theorem entryStackAddress_some {context : DartPlantArm64Context} {offset : Int} {address : Address}
    (hlayout : invocation.callLayout = some layout)
    (h : entryStackAddress invocation context offset = some address) :
    address = context.x layout.dartSpRegister + BitVec.ofInt 64 offset := by
  simp only [entryStackAddress, hlayout] at h
  split at h
  · cases h
  split at h
  · cases h
  exact (Option.some.inj h).symm

/-- A write leaves the place of another argument as it was. -/
theorem readPlace_writePlace_apart {written : InvocationState}
    (hlayout : invocation.callLayout = some layout) (hsmall : 8 * stackWords ≤ 2147483648)
    (hlocation : ArgumentLocation layout.dartSpRegister stackWords location)
    (hother : ArgumentLocation layout.dartSpRegister stackWords other) (hne : location ≠ other)
    (h : writePlace invocation state value location = some written) :
    readPlace invocation written other = readPlace invocation state other := by
  cases location with
  | unknown => cases h
  | gpRegister index =>
    rw [writePlace] at h
    split at h
    on_goal 2 => cases h
    obtain rfl := Option.some.inj h
    cases other with
    | unknown | fpuRegister => rfl
    | gpRegister index' =>
      have hindex : index' ≠ index := fun heq => hne (by rw [heq])
      simp only [readPlace, setX, Function.update_of_ne hindex]
    | entryStack offset =>
      simp only [readPlace, entryStackAddress_setX hlayout hlocation]
  | fpuRegister index =>
    rw [writePlace] at h
    split at h
    on_goal 2 => cases h
    obtain rfl := Option.some.inj h
    cases other with
    | unknown | gpRegister => rfl
    | entryStack => simp only [readPlace, entryStackAddress_setV]
    | fpuRegister index' =>
      have hindex : index' ≠ index := fun heq => hne (by rw [heq])
      simp only [readPlace, setV, Function.update_of_ne hindex]
  | entryStack offset =>
    rw [writePlace] at h
    obtain ⟨address, haddress, rfl⟩ := map_eq_some_iff.mp h
    cases other with
    | unknown => rfl
    | gpRegister => rfl
    | fpuRegister => rfl
    | entryStack offset' =>
      obtain ⟨slot, hslot, rfl⟩ := hlocation
      obtain ⟨slot', hslot', rfl⟩ := hother
      have hslots : slot ≠ slot' := fun heq => hne (by rw [heq])
      simp only [readPlace]
      cases haddress' : entryStackAddress invocation state.context ((slot' : Int) * 8) with
      | none => simp only [map_none]
      | some address' =>
        rw [entryStackAddress_some hlayout haddress, entryStackAddress_some hlayout haddress',
          map_some, map_some,
          word_setWord_apart (slots_apart hsmall hslot hslot' hslots)]

/-- What is written at a place is read there. -/
theorem readPlace_writePlace {written : InvocationState}
    (h : writePlace invocation state value location = some written) :
    readPlace invocation written location = some value := by
  cases location with
  | unknown => cases h
  | gpRegister index =>
    rw [writePlace] at h
    split at h
    next hvalid =>
      obtain rfl := Option.some.inj h
      simp only [readPlace, hvalid, if_true, setX, Function.update_self]
    · cases h
  | fpuRegister index =>
    rw [writePlace] at h
    split at h
    next hvalid =>
      obtain rfl := Option.some.inj h
      simp only [readPlace, hvalid, if_true, setV, Function.update_self,
        lowWord_withLowWord]
    · cases h
  | entryStack offset =>
    rw [writePlace] at h
    obtain ⟨address, haddress, rfl⟩ := map_eq_some_iff.mp h
    simp only [readPlace, haddress, map_some, word_setWord]

/-- A write touches the roots in its second part only. -/
theorem writePlace_roots {written : InvocationState}
    (h : writePlace invocation state value location = some written) :
    written.roots = state.roots ∧ written.closureMapping = state.closureMapping := by
  cases location with
  | unknown => cases h
  | gpRegister index | fpuRegister index =>
    rw [writePlace] at h
    split at h
    · rw [← Option.some.inj h]
      exact ⟨rfl, rfl⟩
    · cases h
  | entryStack offset =>
    obtain ⟨address, -, rfl⟩ := map_eq_some_iff.mp h
    exact ⟨rfl, rfl⟩

/-- The roots of the invocation are those of a bridge. -/
def BridgeRoots (invocation : Invocation) : Prop :=
  ∃ bindings, RootBindings bindings ∧ invocation.generatedRootAccesses = rootAccesses bindings

/-- A verified write is not seen at the location of another argument. -/
theorem readVerified_write_apart (hlayout : invocation.callLayout = some layout)
    (hroots : BridgeRoots invocation) (hsmall : 8 * stackWords ≤ 2147483648)
    (hlocation : ArgumentLocation layout.dartSpRegister stackWords location)
    (hother : ArgumentLocation layout.dartSpRegister stackWords other) (hne : location ≠ other) :
    readVerifiedLocation invocation
        (writeVerifiedLocation invocation state location value false).2 other false =
      readVerifiedLocation invocation state other false := by
  obtain ⟨bindings, -, haccesses⟩ := hroots
  -- The place of the other argument and the root of it are both left alone.
  have hframe : ∀ after : InvocationState,
      readPlace invocation after other = readPlace invocation state other →
      (∀ access, invocation.rootOf other false = some access →
        after.roots[access.rootIndex]? = state.roots[access.rootIndex]?) →
      readVerifiedLocation invocation after other false =
        readVerifiedLocation invocation state other false := by
    intro after hplace hroot
    unfold readVerifiedLocation
    split
    · rfl
    · cases haccess : invocation.rootOf other false with
      | none => exact hplace
      | some access => simp only [generatedRootGet, hroot access haccess]
  rcases writeVerifiedLocation_cases invocation state location value false with
    h | ⟨written, hwritten, ⟨h, -⟩ | ⟨access, haccess, ⟨-, h⟩ | ⟨rooted, hset, h⟩⟩⟩
  · rw [h]
  · rw [h]
    exact hframe written
      (readPlace_writePlace_apart hlayout hsmall hlocation hother hne hwritten)
      fun _ _ => by rw [(writePlace_roots hwritten).1]
  · rw [h]
    exact hframe written
      (readPlace_writePlace_apart hlayout hsmall hlocation hother hne hwritten)
      fun _ _ => by rw [(writePlace_roots hwritten).1]
  · rw [h]
    obtain ⟨-, -, rfl⟩ := generatedRootSet_some hset
    refine hframe _ ?_ fun access' haccess' => ?_
    · rw [← readPlace_writePlace_apart hlayout hsmall hlocation hother hne hwritten]
      cases other <;> rfl
    · obtain ⟨-, hmem, hat, -⟩ := Invocation.rootOf_some haccess
      obtain ⟨-, hmem', hat', -⟩ := Invocation.rootOf_some haccess'
      rw [haccesses] at hmem hmem'
      have hindex : access.rootIndex ≠ access'.rootIndex := by
        intro heq
        rw [rootAccesses_apart hmem hmem' heq, hat'] at hat
        exact hne hat.symm
      rw [(writePlace_roots hwritten).1, List.getElem?_set_ne hindex]

theorem storeVerified_state {message : String} {isResult : Bool} :
    (storeVerified invocation state location value isResult message).2 =
      (writeVerifiedLocation invocation state location value isResult).2 := by
  unfold storeVerified
  cases writeVerifiedLocation invocation state location value isResult with
  | mk written after => cases written <;> rfl

theorem storeVerified_ok {message : String} {isResult : Bool}
    (h : (storeVerified invocation state location value isResult message).1 = .ok ()) :
    (writeVerifiedLocation invocation state location value isResult).1 = true := by
  unfold storeVerified at h
  cases hwrite : writeVerifiedLocation invocation state location value isResult with
  | mk written after =>
    rw [hwrite] at h
    cases written with
    | false => cases h
    | true => rfl

theorem writeVerifiedLocation_context {isResult : Bool}
    (h : (writeVerifiedLocation invocation state location value isResult).1 = true) :
    invocation.hasContext = true := by
  unfold writeVerifiedLocation at h
  split at h
  · cases h
  next hcontext => exact Bool.not_eq_false _ ▸ hcontext

theorem writeVerifiedLocation_mapping {isResult : Bool} :
    (writeVerifiedLocation invocation state location value isResult).2.closureMapping =
      state.closureMapping := by
  rcases writeVerifiedLocation_cases invocation state location value isResult with
    h | ⟨written, hwritten, ⟨h, -⟩ | ⟨access, -, ⟨-, h⟩ | ⟨rooted, hset, h⟩⟩⟩
  · rw [h]
  · rw [h]
    exact (writePlace_roots hwritten).2
  · rw [h]
    exact (writePlace_roots hwritten).2
  · obtain ⟨-, -, rfl⟩ := generatedRootSet_some hset
    rw [h]
    exact (writePlace_roots hwritten).2

/-- Only the words of a single location are encoded. -/
theorem encodeVerifiedWord_single {values : ValidatedValues} {given : DartPlantValue}
    {representation : DartAbiRepresentation} {raw : BitVec 64}
    (h : encodeVerifiedWord values given representation = .ok raw) :
    representation ≠ .pairOfTagged := by
  rintro rfl
  cases h

/-- A verified write that succeeds is read back. -/
theorem readVerified_write (hroots : BridgeRoots invocation)
    (h : (writeVerifiedLocation invocation state location value false).1 = true) :
    readVerifiedLocation invocation
      (writeVerifiedLocation invocation state location value false).2 location false =
        some value := by
  obtain ⟨bindings, hrootable, haccesses⟩ := hroots
  unfold readVerifiedLocation
  rw [if_neg (by rw [writeVerifiedLocation_context h]; exact Bool.noConfusion)]
  rcases writeVerifiedLocation_cases invocation state location value false with
    hcase | ⟨written, hwritten, ⟨hcase, hunrooted⟩ | ⟨access, haccess, ⟨-, hcase⟩ |
      ⟨rooted, hset, hcase⟩⟩⟩
  · rw [hcase] at h
    cases h
  · rw [hcase]
    have hnone : invocation.rootOf location false = none := by
      rcases hunrooted with hvector | hnone
      · cases haccess : invocation.rootOf location false with
        | none => rfl
        | some access =>
          obtain ⟨-, hmem, rfl, -⟩ := Invocation.rootOf_some haccess
          rw [haccesses] at hmem
          rw [rootAccesses_rootable hrootable hmem] at hvector
          cases hvector
      · exact hnone
    rw [hnone]
    exact readPlace_writePlace hwritten
  · rw [hcase] at h
    cases h
  · obtain ⟨hstatus, hindex, rfl⟩ := generatedRootSet_some hset
    rw [hcase, haccess]
    simp only [generatedRootGet, hstatus, if_true, List.getElem?_set_self hindex]

end Places

/-! ## Arguments -/

/-- The invocation passes its arguments by this layout: it has no closure signature, which would
give the formals other places, and its roots are those of a bridge. -/
structure PassesBy (layout : DartCallLayout) (invocation : Invocation) (state : InvocationState) :
    Prop where
  callLayout : ∃ active, invocation.callLayout = some active ∧
    active.parameters = layout.parameters ∧ active.dartSpRegister = layout.dartSpRegister ∧
      active.closureSignature = none
  roots : BridgeRoots invocation
  mapping : state.closureMapping.valid = false

/-- Every parameter of the layout is at one place, and no two are at the same one. -/
structure PlacedApart (layout : DartCallLayout) (stackWords : Nat) : Prop where
  one : ∀ (index : Nat) parameter, layout.parameters[index]? = some parameter →
    ∃ location, parameter.locations = [location] ∧
      ArgumentLocation layout.dartSpRegister stackWords location
  distinct : ∀ index other location, LocatedAt layout index location →
    LocatedAt layout other location → index = other

/-- The places of the ARM64 convention are no stack register. -/
theorem ParametersPlaced.apart {limit : Nat} {parameters : List DartAbiRepresentation}
    {layout : DartCallLayout}
    (h : ParametersPlaced arm64AotCallingConventionProfile limit parameters layout)
    (hregister : layout.dartSpRegister = 15) : PlacedApart layout layout.stackWords where
  distinct := h.distinct
  one index parameter hget := by
    have hlt : index < parameters.length := by
      rw [← h.length]
      exact (List.getElem?_eq_some_iff.mp hget).1
    have hlocated : ∀ location, LocatedAt layout index location →
        parameter.locations = [location] := by
      rintro location ⟨representation, hlocated⟩
      rw [Option.some.inj (hget.symm.trans hlocated)]
    cases hplace : registerFor limit arm64AotCallingConventionProfile.gpArgumentRegisters
        arm64AotCallingConventionProfile.fpuArgumentRegisters parameters index with
    | none =>
      obtain ⟨slot, hslot, hat⟩ := h.stack index hlt hplace
      exact ⟨_, hlocated _ hat, slot, hslot, rfl⟩
    | some location =>
      refine ⟨location, hlocated _ (h.register index location hplace), ?_⟩
      rcases (registerFor_some hplace).2 with ⟨register, hmem, rfl⟩ | ⟨register, hmem, rfl⟩
      · have hnot : 15 ∉ arm64AotCallingConventionProfile.gpArgumentRegisters := by decide
        intro heq
        exact hnot (hregister ▸ heq ▸ hmem)
      · trivial

section Arguments
variable {layout : DartCallLayout} {invocation : Invocation} {state : InvocationState}
  {stackWords index other : Nat} {value : DartPlantValue}

theorem slotLocation_ok {parameter : DartParameterLayout} {location : DartAbiLocation}
    (h : slotLocation parameter = .ok location) : parameter.locations = [location] := by
  unfold slotLocation at h
  split at h
  · cases h
  split at h
  next hlocations =>
    split at h
    · cases h
    · rw [hlocations, Except.ok.inj h]
  · cases h

variable (h : PassesBy layout invocation state)
include h

theorem PassesBy.activeParameters :
    activeParameters invocation state = (some layout.parameters, state) := by
  obtain ⟨active, hactive, hparameters, -, hsignature⟩ := h.callLayout
  have hensure : ensureClosureArgumentMapping invocation state = (.ok (), state) := by
    unfold ensureClosureArgumentMapping
    simp only [hactive, hsignature, Option.bind_some, map_none]
  rw [DartPlant.activeParameters, hensure]
  simp only [h.mapping, Bool.false_eq_true, if_false, hactive, map_some, hparameters]

/-- A write of an argument writes its location, or nothing. -/
theorem PassesBy.setArgument_cases (index : Nat) (value : Option DartPlantValue) :
    (∃ failure, setArgument invocation state index value = (.error failure, state)) ∨
      ∃ given parameter location raw, value = some given ∧ invocation.phase = .enter ∧
        layout.parameters[index]? = some parameter ∧ parameter.locations = [location] ∧
        encodeVerifiedWord invocation.values given parameter.representation = .ok raw ∧
        setArgument invocation state index value = storeVerified invocation state location raw false
            "verified DartCallLayout location is unwritable" := by
  obtain ⟨active, hactive, -, -, -⟩ := h.callLayout
  unfold setArgument
  cases value with
  | none => exact Or.inl ⟨_, rfl⟩
  | some given =>
    dsimp only
    split
    · exact Or.inl ⟨_, rfl⟩
    split
    · exact Or.inl ⟨_, rfl⟩
    next hphase =>
      rw [hactive, isSome_some, if_pos rfl, h.activeParameters]
      dsimp only
      cases hget : layout.parameters[index]? with
      | none => exact Or.inl ⟨_, rfl⟩
      | some parameter =>
        dsimp only
        unfold encodeVerifiedValue
        cases hslot : slotLocation parameter with
        | error failure => exact Or.inl ⟨_, rfl⟩
        | ok location =>
          dsimp only
          cases hword : encodeVerifiedWord invocation.values given parameter.representation with
          | error failure => exact Or.inl ⟨_, rfl⟩
          | ok raw =>
            refine Or.inr ⟨given, parameter, location, raw, rfl, not_not.mp hphase, rfl, ?_, hword,
              rfl⟩
            exact slotLocation_ok hslot

/-- A read of an argument reads its location. -/
theorem PassesBy.getArgument_eq {parameter : DartParameterLayout} {location : DartAbiLocation}
    (hphase : invocation.phase = .enter) (hget : layout.parameters[index]? = some parameter)
    (hlocation : slotLocation parameter = .ok location) (hcontext : invocation.hasContext = true) :
    (getArgument invocation state index).1 =
      match readVerifiedLocation invocation state location false with
      | none => .error ⟨.profileMismatch, "verified DartCallLayout location is unreadable"⟩
      | some raw => decodeVerifiedWord invocation.values raw parameter.representation := by
  obtain ⟨active, hactive, hparameters, -, -⟩ := h.callLayout
  have hbound : ¬ invocation.argumentCount ≤ index := by
    simp only [Invocation.argumentCount, Invocation.argumentAccess, hactive, isSome_some,
      Bool.true_or, Bool.true_eq_false, if_false, hparameters]
    exact not_le.mpr (List.getElem?_eq_some_iff.mp hget).1
  have haccess : invocation.argumentAccess = true := by
    rw [Invocation.argumentAccess, hactive, isSome_some, Bool.true_or]
  unfold getArgument
  rw [if_neg (by rw [hphase]; exact nofun), if_neg, hactive, isSome_some, if_pos rfl,
    h.activeParameters]
  · simp only [hget, decodeVerifiedValue, hlocation]
    rfl
  · rw [haccess, hcontext]
    simp [hbound]

/-- A write keeps the way the arguments are passed. -/
theorem PassesBy.setArgument (index : Nat) (value : Option DartPlantValue) :
    PassesBy layout invocation (DartPlant.setArgument invocation state index value).2 := by
  rcases h.setArgument_cases index value with
    ⟨failure, hset⟩ | ⟨_, _, location, raw, _, _, _, _, _, hset⟩
  · rw [hset]
    exact h
  · refine ⟨h.callLayout, h.roots, ?_⟩
    rw [hset, storeVerified_state, writeVerifiedLocation_mapping]
    exact h.mapping

/-- An argument reads the same in two states when its location does. -/
theorem PassesBy.getArgument_congr {after : InvocationState}
     (hafter : PassesBy layout invocation after)
    (hread : ∀ parameter location, layout.parameters[other]? = some parameter →
      parameter.locations = [location] → readVerifiedLocation invocation after location false =
        readVerifiedLocation invocation state location false) :
    (getArgument invocation after other).1 = (getArgument invocation state other).1 := by
  obtain ⟨active, hactive, -, -, -⟩ := h.callLayout
  unfold getArgument
  split
  · rfl
  split
  · rfl
  rw [hactive, isSome_some, if_pos rfl, if_pos rfl, h.activeParameters,
    hafter.activeParameters]
  dsimp only
  cases hget : layout.parameters[other]? with
  | none => rfl
  | some parameter =>
    dsimp only [decodeVerifiedValue]
    cases hslot : slotLocation parameter with
    | error failure => rfl
    | ok location =>
      have hsame := hread parameter location hget (slotLocation_ok hslot)
      simp only [bind, Except.bind, hsame]

/-- What setting one argument does to all of them. -/
structure ReadsBack (layout : DartCallLayout) (invocation : Invocation) (state : InvocationState) :
    Prop where
  others : ∀ index value other, other ≠ index →
    (getArgument invocation (setArgument invocation state index value).2 other).1 =
      (getArgument invocation state other).1
  encoded : ∀ index value, (setArgument invocation state index (some value)).1 = .ok () →
    ∃ parameter raw, layout.parameters[index]? = some parameter ∧
      encodeVerifiedWord invocation.values value parameter.representation = .ok raw ∧
      (getArgument invocation (setArgument invocation state index (some value)).2 index).1 =
        decodeVerifiedWord invocation.values raw parameter.representation
  canonical : ∀ index value parameter raw,
    (setArgument invocation state index (some value)).1 = .ok () →
    layout.parameters[index]? = some parameter →
    decodeVerifiedWord invocation.values raw parameter.representation = .ok value →
    (getArgument invocation (setArgument invocation state index (some value)).2 index).1 = .ok value

theorem PassesBy.reads_others
    (hplaced : PlacedApart layout stackWords) (hsmall : 8 * stackWords ≤ 2147483648)
    (index : Nat) (value : Option DartPlantValue) (hne : other ≠ index) :
    (getArgument invocation (DartPlant.setArgument invocation state index value).2 other).1 =
      (getArgument invocation state other).1 := by
  refine h.getArgument_congr (h.setArgument index value) fun parameter location hget hlocation => ?_
  rcases h.setArgument_cases index value with
    ⟨failure, hset⟩ | ⟨_, written, place, raw, _, _, hwritten, hplace, _, hset⟩
  · rw [hset]
  · obtain ⟨active, hactive, -, hregister, -⟩ := h.callLayout
    rw [hset, storeVerified_state]
    obtain ⟨place', hplace', hargument⟩ := hplaced.one index written hwritten
    obtain ⟨location', hlocation', hother⟩ := hplaced.one other parameter hget
    obtain rfl := (List.cons.inj (hplace.symm.trans hplace')).1
    obtain rfl := (List.cons.inj (hlocation.symm.trans hlocation')).1
    rw [← hregister] at hargument hother
    refine readVerified_write_apart hactive h.roots hsmall hargument hother fun heq => hne ?_
    subst heq
    refine hplaced.distinct other index place ⟨parameter.representation, ?_⟩
      ⟨written.representation, ?_⟩
    · rw [hget, ← hlocation]
    · rw [hwritten, ← hplace]

theorem PassesBy.reads_encoded
    (hset : (DartPlant.setArgument invocation state index (some value)).1 = .ok ()) :
    ∃ parameter raw, layout.parameters[index]? = some parameter ∧
      encodeVerifiedWord invocation.values value parameter.representation = .ok raw ∧
      (getArgument invocation (DartPlant.setArgument invocation state index (some value)).2
        index).1 = decodeVerifiedWord invocation.values raw parameter.representation := by
  have hafter := h.setArgument index (some value)
  rcases h.setArgument_cases index (some value) with
    ⟨failure, hcase⟩ | ⟨given, parameter, location, raw, hgiven, hphase, hget, hlocation, hword,
      hcase⟩
  · rw [hcase] at hset
    cases hset
  · obtain rfl := Option.some.inj hgiven
    refine ⟨parameter, raw, hget, hword, ?_⟩
    rw [hcase] at hset hafter ⊢
    have hwritten := storeVerified_ok hset
    have hslot : slotLocation parameter = .ok location := by
      rw [slotLocation, if_neg (encodeVerifiedWord_single hword), hlocation]
      have hknown : location ≠ .unknown := by
        rintro rfl
        rcases writeVerifiedLocation_cases invocation state .unknown raw false with
          hfail | ⟨_, hplace, _⟩
        · rw [hfail] at hwritten
          cases hwritten
        · cases hplace
      exact if_neg hknown
    rw [hafter.getArgument_eq hphase hget hslot (writeVerifiedLocation_context hwritten),
      storeVerified_state, readVerified_write h.roots hwritten]

end Arguments

/-- The layout of a call gives each parameter a place of its own, the registers of its sequence
first and then the words of the stack area; so what is set of one argument is read of that one
alone.  It is read in its canonical form: the value itself, if it is of the form that reads
return. -/
theorem call_layout_read_back {abi : DartFunctionAbiResolution} {closureCall : Bool}
    {layout : DartCallLayout}
    (hok : computeDartCallLayout abi arm64AotCallingConventionProfile closureCall = (.ok, layout))
    (hstack : 8 * layout.stackWords ≤ 2147483648) :
    ParametersPlaced arm64AotCallingConventionProfile (registerLimit abi)
        (abi.parameters.map DartAbiResolvedSlot.representation) layout ∧
      ∀ invocation state, PassesBy layout invocation state → ReadsBack layout invocation state := by
  have hstatus : (computeDartCallLayout abi arm64AotCallingConventionProfile closureCall).1 =
      .ok := congrArg Prod.fst hok
  have hplaces := arm64_places hstatus
  have hlayout := computeDartCallLayout_eq_layoutOf hstatus
  rw [hok] at hplaces hlayout
  dsimp only at hplaces hlayout
  refine ⟨hplaces, fun invocation state h => ⟨fun index value other hne => ?_,
    fun index value hset => h.reads_encoded hset,
    fun index value parameter raw hset hget hvalue => ?_⟩⟩
  · exact h.reads_others (hplaces.apart (by rw [hlayout]; rfl)) hstack index value hne
  · obtain ⟨parameter', raw', hget', hword, hread⟩ := h.reads_encoded hset
    obtain rfl := Option.some.inj (hget.symm.trans hget')
    rw [encode_decodeVerifiedWord hvalue, Except.ok.injEq] at hword
    rw [hread, ← hword, hvalue]

/-- A function of two tagged parameters, of which registers may hold one. -/
def mixedResolution : DartFunctionAbiResolution where
  parameters := [⟨.tagged, .proven, 1⟩, ⟨.tagged, .proven, 1⟩]
  result := ⟨.tagged, .proven, 1⟩
  hasStackCallingConvention := true
  hasOptionalParameterInfo := true
  hasMaxParametersInRegisters := true
  maxParametersInRegisters := 1

def mixedLayout : DartCallLayout where
  parameters := [⟨.tagged, [.gpRegister 1]⟩, ⟨.tagged, [.entryStack 0]⟩]
  result := ⟨.tagged, [.gpRegister 0]⟩
  stackWords := 1
  dartSpRegister := 15

theorem call_layout_read_back_mixed :
    ParametersPlaced arm64AotCallingConventionProfile (registerLimit mixedResolution)
        (mixedResolution.parameters.map DartAbiResolvedSlot.representation) mixedLayout ∧
      ∀ invocation state, PassesBy mixedLayout invocation state →
        ReadsBack mixedLayout invocation state := by
  have hok : computeDartCallLayout mixedResolution arm64AotCallingConventionProfile false =
      (.ok, mixedLayout) := by decide
  exact call_layout_read_back hok (by decide)

def mixedInvocation : Invocation where
  callLayout := some mixedLayout
  profile := none
  phase := .enter
  callObjectLayout := fun _ => ⟨⟨1, 0, 1, 1, 12, 20, 4⟩, ⟨8, 12, 16, 20, 24, 8, 0, 4⟩, 5, 6, 26, 8⟩

def mixedState : InvocationState where
  context := ⟨fun _ => 0x8000, fun _ => 0⟩
  memory := fun _ => 0
  roots := []
  skipOriginal := false
  callOriginal := true
  closureMapping := {}

/-- A raw word that is set of a tagged argument is read as the Smi that it spells. -/
theorem raw_word_read_as_smi :
    computeDartCallLayout mixedResolution arm64AotCallingConventionProfile false =
        (.ok, mixedLayout) ∧
      PassesBy mixedLayout mixedInvocation mixedState ∧
      (setArgument mixedInvocation mixedState 0 (some ⟨.rawWord, 0, 2⟩)).1 = .ok () ∧
      (getArgument mixedInvocation
        (setArgument mixedInvocation mixedState 0 (some ⟨.rawWord, 0, 2⟩)).2 0).1 ≠
          .ok ⟨.rawWord, 0, 2⟩ := by
  refine ⟨by decide, ⟨⟨mixedLayout, rfl, rfl, rfl, rfl⟩, ⟨[], ?_, rfl⟩, rfl⟩, ?_, ?_⟩
  · intro binding hbinding
    cases hbinding
  · decide +kernel
  · decide +kernel

end DartPlant
