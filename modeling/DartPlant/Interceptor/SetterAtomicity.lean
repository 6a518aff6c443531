import DartPlant.Interceptor.ArgumentReadBack

/-! # Setters that fail

A call that changes the invocation has no effect when it fails, but for three slips: a location is
written before its root, the words of a pair one after the other, and a result before its phase is
looked at.  `setter_keeps_iff` says of every call and state whether one of these shows.
-/

namespace DartPlant
open ByteMemory

/-! ## What others see -/

/-- What others see of the state is as it was: all but the mapping of closure arguments. -/
structure Unchanged (state after : InvocationState) : Prop where
  context : after.context = state.context
  memory : after.memory = state.memory
  roots : after.roots = state.roots
  skipOriginal : after.skipOriginal = state.skipOriginal
  callOriginal : after.callOriginal = state.callOriginal

open Unchanged

/-- The call changes nothing when it fails. -/
def KeepsOnError (state : InvocationState) (outcome : Result Unit × InvocationState) : Prop :=
  ∀ failure, outcome.1 = .error failure → Unchanged state outcome.2

section Visible
variable {invocation : Invocation} {state after : InvocationState}
  {location : DartAbiLocation} {value : BitVec 64} {isResult : Bool}

theorem Unchanged.refl : Unchanged state state := ⟨rfl, rfl, rfl, rfl, rfl⟩

theorem Unchanged.trans {last : InvocationState} (h : Unchanged state after)
    (hlast : Unchanged after last) : Unchanged state last :=
  ⟨hlast.context.trans h.context, hlast.memory.trans h.memory, hlast.roots.trans h.roots,
    hlast.skipOriginal.trans h.skipOriginal, hlast.callOriginal.trans h.callOriginal⟩

theorem Unchanged.symm (h : Unchanged state after) : Unchanged after state :=
  ⟨h.context.symm, h.memory.symm, h.roots.symm, h.skipOriginal.symm, h.callOriginal.symm⟩

theorem Unchanged.readPlace (h : Unchanged state after) :
    readPlace invocation after location = readPlace invocation state location := by
  cases location <;> simp only [DartPlant.readPlace, h.context, h.memory]

theorem ensureClosureArgumentMapping_unchanged (invocation : Invocation)
    (state : InvocationState) :
    Unchanged state (ensureClosureArgumentMapping invocation state).2 := by
  unfold ensureClosureArgumentMapping
  cases invocation.callLayout.bind fun layout => layout.closureSignature.map (layout, ·) with
  | none => exact refl
  | some pair =>
    obtain ⟨layout, signature⟩ := pair
    dsimp only
    split
    · exact refl
    · cases mapClosureArguments invocation state layout signature with
      | error message => exact ⟨rfl, rfl, rfl, rfl, rfl⟩
      | ok mapping => exact ⟨rfl, rfl, rfl, rfl, rfl⟩

theorem activeParameters_unchanged (invocation : Invocation) (state : InvocationState) :
    Unchanged state (activeParameters invocation state).2 := by
  have hensure := ensureClosureArgumentMapping_unchanged invocation state
  unfold activeParameters
  split
  next heq =>
    rw [heq] at hensure
    exact hensure
  next heq =>
    rw [heq] at hensure
    split
    · exact hensure
    · exact hensure

theorem argumentIsTagged_unchanged (invocation : Invocation) (state : InvocationState)
    (index : Nat) : Unchanged state (argumentIsTagged invocation state index).2 := by
  unfold argumentIsTagged
  split
  · exact activeParameters_unchanged invocation state
  · exact refl

/-- A place is written unless it is unreadable too. -/
theorem writePlace_none_iff :
    writePlace invocation state value location = none ↔
      readPlace invocation state location = none := by
  cases location with
  | unknown => simp only [writePlace, readPlace]
  | gpRegister index | fpuRegister index =>
    simp only [writePlace, readPlace]
    split <;> simp
  | entryStack offset => simp only [writePlace, readPlace, Option.map_eq_none_iff]

/-- The write of a place shows unless the word is there already. -/
theorem writePlace_unchanged_iff (h : writePlace invocation state value location = some after) :
    Unchanged state after ↔ readPlace invocation state location = some value := by
  constructor
  · intro hsame
    rw [← hsame.readPlace, readPlace_writePlace h]
  · intro hheld
    cases location with
    | unknown => cases h
    | gpRegister index =>
      simp only [readPlace, writePlace] at h hheld
      split at h
      next hvalid =>
        rw [if_pos hvalid, Option.some.injEq] at hheld
        obtain rfl := Option.some.inj h
        refine ⟨?_, rfl, rfl, rfl, rfl⟩
        simp only [DartPlantArm64Context.setX, ← hheld, Function.update_eq_self]
      · cases h
    | fpuRegister index =>
      simp only [readPlace, writePlace] at h hheld
      split at h
      next hvalid =>
        rw [if_pos hvalid, Option.some.injEq] at hheld
        obtain rfl := Option.some.inj h
        refine ⟨?_, rfl, rfl, rfl, rfl⟩
        simp only [DartPlantArm64Context.setV, ← hheld, withLowWord_lowWord,
          Function.update_eq_self]
      · cases h
    | entryStack offset =>
      rw [writePlace] at h
      rw [readPlace] at hheld
      obtain ⟨address, haddress, rfl⟩ := Option.map_eq_some_iff.mp h
      rw [haddress, Option.map_some, Option.some.injEq] at hheld
      refine ⟨rfl, ?_, rfl, rfl, rfl⟩
      simp only [← hheld, setWord_word]

end Visible

/-! ## Writes that are cut short -/

/-- The location has a root, which does not take a word. -/
def RootRefuses (invocation : Invocation) (state : InvocationState) (location : DartAbiLocation)
    (isResult : Bool) : Prop :=
  location.rootable = true ∧ ∃ access, invocation.rootOf location isResult = some access ∧
    ¬ (invocation.rootStatus = .ok ∧ access.rootIndex < state.roots.length)

/-- The place takes a new word and its root refuses it. -/
def TornWrite (invocation : Invocation) (state : InvocationState) (location : DartAbiLocation)
    (value : BitVec 64) (isResult : Bool) : Prop :=
  invocation.hasContext = true ∧ RootRefuses invocation state location isResult ∧
    ∃ held, readPlace invocation state location = some held ∧ held ≠ value

/-- The place and the root of the location are given a word that one of them does not hold. -/
def ChangingWrite (invocation : Invocation) (state : InvocationState) (location : DartAbiLocation)
    (value : BitVec 64) (isResult : Bool) : Prop :=
  invocation.hasContext = true ∧ ∃ held, readPlace invocation state location = some held ∧
    ¬ RootRefuses invocation state location isResult ∧
    (held ≠ value ∨ location.rootable = true ∧ ∃ access,
      invocation.rootOf location isResult = some access ∧
        state.roots[access.rootIndex]? ≠ some value)

section Writes
variable {invocation : Invocation} {state state' after : InvocationState}
  {location : DartAbiLocation} {value : BitVec 64} {isResult : Bool}

theorem Unchanged.rootRefuses (h : Unchanged state after) :
    RootRefuses invocation after location isResult ↔
      RootRefuses invocation state location isResult := by
  unfold RootRefuses
  rw [h.roots]

theorem Unchanged.tornWrite (h : Unchanged state after) :
    TornWrite invocation after location value isResult ↔
      TornWrite invocation state location value isResult := by
  unfold TornWrite
  rw [h.rootRefuses, h.readPlace]

theorem generatedRootSet_none_iff {access : GeneratedRootAccess} {written : InvocationState}
    (hroots : written.roots = state.roots) :
    generatedRootSet invocation written access.rootIndex value = none ↔
      ¬ (invocation.rootStatus = .ok ∧ access.rootIndex < state.roots.length) := by
  unfold generatedRootSet
  rw [hroots]
  split
  next h => simp only [h, not_true_eq_false, reduceCtorEq, and_self]
  next h => simp only [h, not_false_eq_true]

/-- Setting a root shows unless it holds the word already. -/
theorem generatedRootSet_unchanged_iff {access : GeneratedRootAccess} {written : InvocationState}
    (hroots : written.roots = state.roots)
    (h : generatedRootSet invocation written access.rootIndex value = some after) :
    Unchanged state after ↔
      Unchanged state written ∧ state.roots[access.rootIndex]? = some value := by
  obtain ⟨-, hindex, rfl⟩ := generatedRootSet_some h
  rw [hroots] at hindex ⊢
  constructor
  · rintro ⟨hcontext, hmemory, hset, hskip, hcall⟩
    refine ⟨⟨hcontext, hmemory, hroots, hskip, hcall⟩, ?_⟩
    rw [← hset, List.getElem?_set_self hindex]
  · rintro ⟨⟨hcontext, hmemory, -, hskip, hcall⟩, hheld⟩
    obtain ⟨_, rfl⟩ := List.getElem?_eq_some_iff.mp hheld
    exact ⟨hcontext, hmemory, List.set_getElem_self hindex, hskip, hcall⟩

/-- What a write that no root refuses has to find for it not to change anything. -/
theorem not_changingWrite_iff {held : BitVec 64} (hcontext : invocation.hasContext = true)
    (hread : readPlace invocation state location = some held)
    (haccepts : ¬ RootRefuses invocation state location isResult) :
    ¬ ChangingWrite invocation state location value isResult ↔ held = value ∧
      (location.rootable = true → ∀ access, invocation.rootOf location isResult = some access →
        state.roots[access.rootIndex]? = some value) := by
  unfold ChangingWrite
  rw [hread]
  constructor
  · intro h
    by_contra hnot
    refine h ⟨hcontext, held, rfl, haccepts, ?_⟩
    by_cases hheld : held = value
    · refine Or.inr ?_
      by_contra hroot
      exact hnot ⟨hheld, fun hrootable access haccess => by_contra fun hne =>
        hroot ⟨hrootable, access, haccess, hne⟩⟩
    · exact Or.inl hheld
  · rintro ⟨rfl, hroot⟩ ⟨-, _, hheld, -, hne | ⟨hrootable, access, haccess, hne⟩⟩
    · exact hne (Option.some.inj hheld).symm
    · exact hne (hroot hrootable access haccess)

/-- The write of a place without a root shows when it changes anything. -/
theorem unrooted_write_iff {held : BitVec 64} {written : InvocationState}
    (hcontext : invocation.hasContext = true)
    (hread : readPlace invocation state location = some held)
    (hwrite : writePlace invocation state value location = some written)
    (hnone : location.rootable = true → invocation.rootOf location isResult = none) :
    ¬ RootRefuses invocation state location isResult ∧
      (Unchanged state written ↔ ¬ ChangingWrite invocation state location value isResult) := by
  have haccepts : ¬ RootRefuses invocation state location isResult := by
    rintro ⟨hrootable, access, haccess, -⟩
    rw [hnone hrootable] at haccess
    cases haccess
  refine ⟨haccepts, ?_⟩
  rw [writePlace_unchanged_iff hwrite, hread, Option.some.injEq,
    not_changingWrite_iff hcontext hread haccepts]
  refine (and_iff_left fun hrootable access haccess => ?_).symm
  rw [hnone hrootable] at haccess
  cases haccess

/-- So does the write of a place and its root. -/
theorem rooted_write_iff {held : BitVec 64} {written rooted : InvocationState}
    {access : GeneratedRootAccess} (hcontext : invocation.hasContext = true)
    (hread : readPlace invocation state location = some held)
    (hwrite : writePlace invocation state value location = some written)
    (hrootable : location.rootable = true)
    (haccess : invocation.rootOf location isResult = some access)
    (hset : generatedRootSet invocation written access.rootIndex value = some rooted) :
    ¬ RootRefuses invocation state location isResult ∧
      (Unchanged state rooted ↔ ¬ ChangingWrite invocation state location value isResult) := by
  obtain ⟨hroots, -⟩ := writePlace_roots hwrite
  have haccepts : ¬ RootRefuses invocation state location isResult := by
    rintro ⟨-, access', haccess', hrefuses⟩
    obtain rfl := Option.some.inj (haccess.symm.trans haccess')
    rw [← generatedRootSet_none_iff hroots, hset] at hrefuses
    cases hrefuses
  refine ⟨haccepts, ?_⟩
  rw [generatedRootSet_unchanged_iff hroots hset, writePlace_unchanged_iff hwrite, hread,
    Option.some.injEq, not_changingWrite_iff hcontext hread haccepts]
  refine and_congr_right fun _ => ⟨fun hroot _ access' haccess' => ?_, fun hroot => ?_⟩
  · rw [← Option.some.inj (haccess.symm.trans haccess')]
    exact hroot
  · exact hroot hrootable access haccess

/-- A write to a place that takes a word: its root refuses it, or the write shows when it changes
anything. -/
theorem writeVerifiedLocation_spec (value : BitVec 64) (isResult : Bool) {held : BitVec 64}
    (hcontext : invocation.hasContext = true)
    (hread : readPlace invocation state location = some held) :
    ∃ written, writePlace invocation state value location = some written ∧
      (RootRefuses invocation state location isResult ∧
          writeVerifiedLocation invocation state location value isResult = (false, written) ∨
        ¬ RootRefuses invocation state location isResult ∧
          ∃ after, writeVerifiedLocation invocation state location value isResult = (true, after) ∧
            (Unchanged state after ↔
              ¬ ChangingWrite invocation state location value isResult)) := by
  cases hwrite : writePlace invocation state value location with
  | none =>
    rw [writePlace_none_iff, hread] at hwrite
    cases hwrite
  | some written =>
    refine ⟨written, rfl, ?_⟩
    have hfalse : ¬ invocation.hasContext = false := by rw [hcontext]; exact Bool.noConfusion
    unfold writeVerifiedLocation
    rw [if_neg hfalse, hwrite]
    cases location with
    | unknown => cases hread
    | fpuRegister index =>
      obtain ⟨haccepts, hshown⟩ := unrooted_write_iff hcontext hread hwrite nofun
      exact Or.inr ⟨haccepts, written, rfl, hshown⟩
    | gpRegister | entryStack =>
      dsimp only
      cases haccess : invocation.rootOf _ isResult with
      | none =>
        obtain ⟨haccepts, hshown⟩ := unrooted_write_iff hcontext hread hwrite fun _ => haccess
        exact Or.inr ⟨haccepts, written, rfl, hshown⟩
      | some access =>
        dsimp only
        cases hset : generatedRootSet invocation written access.rootIndex value with
        | none =>
          have hrefuses := (generatedRootSet_none_iff (writePlace_roots hwrite).1).mp hset
          exact Or.inl ⟨⟨rfl, access, haccess, hrefuses⟩, rfl⟩
        | some rooted =>
          obtain ⟨haccepts, hshown⟩ := rooted_write_iff hcontext hread hwrite rfl haccess hset
          exact Or.inr ⟨haccepts, rooted, rfl, hshown⟩

end Writes

/-! ## Outcomes -/

section Outcomes
variable {invocation : Invocation} {state state' : InvocationState}
  {location : DartAbiLocation} {value : BitVec 64} {isResult : Bool}
  {outcome : Result Unit × InvocationState}

theorem Unchanged.keepsOnError_iff (h : Unchanged state state') :
    KeepsOnError state outcome ↔ KeepsOnError state' outcome :=
  ⟨fun hkeeps failure hfailure => h.symm.trans (hkeeps failure hfailure),
    fun hkeeps failure hfailure => h.trans (hkeeps failure hfailure)⟩

theorem keepsOnError_error (h : Unchanged state state') (failure : Failure) :
    KeepsOnError state (.error failure, state') := fun _ _ => h

theorem keepsOnError_ok : KeepsOnError state (.ok (), state') := by
  intro failure h
  cases h

theorem storeVerified_keeps_iff (h : Unchanged state state') {message : String} :
    KeepsOnError state (storeVerified invocation state' location value isResult message) ↔
      ¬ TornWrite invocation state location value isResult := by
  rw [h.keepsOnError_iff, ← h.tornWrite]
  -- A write that is not even tried leaves the state as it is.
  have hidle : ∀ untorn : ¬ TornWrite invocation state' location value isResult,
      writeVerifiedLocation invocation state' location value isResult = (false, state') →
      (KeepsOnError state' (storeVerified invocation state' location value isResult message) ↔
        ¬ TornWrite invocation state' location value isResult) := by
    intro untorn hwrite
    rw [storeVerified, hwrite]
    exact iff_of_true (keepsOnError_error refl _) untorn
  cases hcontext : invocation.hasContext with
  | false =>
    refine hidle (fun htorn => ?_) (by rw [writeVerifiedLocation, if_pos hcontext])
    rw [htorn.1] at hcontext
    cases hcontext
  | true =>
    cases hread : readPlace invocation state' location with
    | none =>
      refine hidle ?_ ?_
      · rintro ⟨-, -, held, hheld, -⟩
        rw [hread] at hheld
        cases hheld
      · rw [writeVerifiedLocation, writePlace_none_iff.mpr hread]
        split <;> rfl
    | some held =>
      obtain ⟨written, hplace, ⟨hrefuses, hwrite⟩ | ⟨haccepts, after, hwrite, -⟩⟩ :=
        writeVerifiedLocation_spec value isResult hcontext hread
      · have hplace' := writePlace_unchanged_iff hplace
        rw [hread, Option.some.injEq] at hplace'
        rw [storeVerified, hwrite]
        constructor
        · rintro hkeeps ⟨-, -, held', hheld', hne⟩
          obtain rfl := Option.some.inj (hread.symm.trans hheld')
          exact hne (hplace'.mp (hkeeps _ rfl))
        · intro huntorn
          refine keepsOnError_error (hplace'.mpr (by_contra fun hne => huntorn ?_)) _
          exact ⟨hcontext, hrefuses, held, hread, hne⟩
      · rw [storeVerified, hwrite]
        exact iff_of_true keepsOnError_ok fun htorn => haccepts htorn.2.1

theorem encodeVerifiedValue_keeps_iff (h : Unchanged state state') {layout : DartParameterLayout}
    {given : DartPlantValue} :
    KeepsOnError state (encodeVerifiedValue invocation state' layout given isResult) ↔
      ¬ ∃ location raw, slotLocation layout = .ok location ∧
        encodeVerifiedWord invocation.values given layout.representation = .ok raw ∧
          TornWrite invocation state location raw isResult := by
  unfold encodeVerifiedValue
  cases hslot : slotLocation layout with
  | error failure =>
    refine iff_of_true (keepsOnError_error h failure) ?_
    rintro ⟨_, _, ⟨⟩, -⟩
  | ok location =>
    dsimp only
    cases hword : encodeVerifiedWord invocation.values given layout.representation with
    | error failure =>
      refine iff_of_true (keepsOnError_error h failure) ?_
      rintro ⟨_, _, -, ⟨⟩, -⟩
    | ok raw =>
      dsimp only
      rw [storeVerified_keeps_iff h]
      refine not_congr ⟨fun htorn => ⟨location, raw, rfl, rfl, htorn⟩, ?_⟩
      rintro ⟨_, _, ⟨⟩, ⟨⟩, htorn⟩
      exact htorn

theorem storeVerified_unchanged_iff {message : String} :
    Unchanged state (storeVerified invocation state location value isResult message).2 ↔
      ¬ (TornWrite invocation state location value isResult ∨
        ChangingWrite invocation state location value isResult) := by
  rw [storeVerified_state]
  have hidle : (∀ held, invocation.hasContext = true →
      readPlace invocation state location ≠ some held) →
      ¬ (TornWrite invocation state location value isResult ∨
        ChangingWrite invocation state location value isResult) := by
    rintro hnone (⟨hcontext, -, held, hheld, -⟩ | ⟨hcontext, held, hheld, -⟩)
    · exact hnone held hcontext hheld
    · exact hnone held hcontext hheld
  cases hcontext : invocation.hasContext with
  | false =>
    rw [writeVerifiedLocation, if_pos hcontext]
    refine iff_of_true refl (hidle fun held htrue => ?_)
    rw [hcontext] at htrue
    cases htrue
  | true =>
    cases hread : readPlace invocation state location with
    | none =>
      refine iff_of_true ?_ (hidle fun held _ => by rw [hread]; exact nofun)
      rw [writeVerifiedLocation, writePlace_none_iff.mpr hread]
      split
      · exact refl
      · exact refl
    | some held =>
      obtain ⟨written, hplace, ⟨hrefuses, hwrite⟩ | ⟨haccepts, after, hwrite, hshown⟩⟩ :=
        writeVerifiedLocation_spec value isResult hcontext hread
      · rw [hwrite, writePlace_unchanged_iff hplace, hread, Option.some.injEq]
        constructor
        · rintro rfl (⟨-, -, held', hheld', hne⟩ | ⟨-, _, -, haccepts, -⟩)
          · exact hne (Option.some.inj (hheld'.symm.trans hread))
          · exact haccepts hrefuses
        · exact fun h => by_contra fun hne =>
            h (Or.inl ⟨hcontext, hrefuses, held, hread, hne⟩)
      · rw [hwrite, hshown, not_or]
        exact (and_iff_right fun htorn => haccepts htorn.2.1).symm

theorem encodeVerifiedValue_unchanged_iff {layout : DartParameterLayout}
    {given : DartPlantValue} :
    Unchanged state (encodeVerifiedValue invocation state layout given isResult).2 ↔
      ¬ ∃ location raw, slotLocation layout = .ok location ∧
        encodeVerifiedWord invocation.values given layout.representation = .ok raw ∧
          (TornWrite invocation state location raw isResult ∨
            ChangingWrite invocation state location raw isResult) := by
  unfold encodeVerifiedValue
  cases hslot : slotLocation layout with
  | error failure =>
    refine iff_of_true refl ?_
    rintro ⟨_, _, ⟨⟩, -⟩
  | ok location =>
    dsimp only
    cases hword : encodeVerifiedWord invocation.values given layout.representation with
    | error failure =>
      refine iff_of_true refl ?_
      rintro ⟨_, _, -, ⟨⟩, -⟩
    | ok raw =>
      dsimp only
      rw [storeVerified_unchanged_iff]
      refine not_congr ⟨fun h => ⟨location, raw, rfl, rfl, h⟩, ?_⟩
      rintro ⟨_, _, ⟨⟩, ⟨⟩, h⟩
      exact h

/-- The verified location of the same register. -/
def DartPlantAbiLocation.verified : DartPlantAbiLocation → DartAbiLocation
  | .gpRegister index => .gpRegister index
  | .fpRegister index => .fpuRegister index

theorem readLocation_eq (invocation : Invocation) {location : DartPlantAbiLocation} :
    readLocation state location = readPlace invocation state location.verified := by
  cases location <;> rfl

theorem writeLocation_eq (invocation : Invocation) {location : DartPlantAbiLocation} :
    writeLocation state value location = writePlace invocation state value location.verified := by
  cases location <;> rfl

theorem encodeLegacyValue_keeps {given : DartPlantValue} {isTagged : Bool}
    {location : DartPlantAbiLocation} :
    KeepsOnError state (encodeLegacyValue invocation state given isTagged location) := by
  unfold encodeLegacyValue
  split
  · exact keepsOnError_error refl _
  split
  · exact keepsOnError_error refl _
  · exact keepsOnError_ok

theorem encodeLegacyValue_unchanged_iff {given : DartPlantValue} {isTagged : Bool}
    {location : DartPlantAbiLocation} :
    Unchanged state (encodeLegacyValue invocation state given isTagged location).2 ↔
      ¬ ∃ raw held, encodeLegacyWord invocation.values given isTagged location = .ok raw ∧
        readLocation state location = some held ∧ held ≠ raw := by
  unfold encodeLegacyValue
  cases hword : encodeLegacyWord invocation.values given isTagged location with
  | error failure =>
    refine iff_of_true refl ?_
    rintro ⟨_, _, ⟨⟩, -⟩
  | ok raw =>
    dsimp only
    rw [readLocation_eq invocation, writeLocation_eq invocation]
    cases hwrite : writePlace invocation state raw location.verified with
    | none =>
      refine iff_of_true refl ?_
      rintro ⟨_, _, -, hheld, -⟩
      rw [writePlace_none_iff.mp hwrite] at hheld
      cases hheld
    | some after =>
      dsimp only
      rw [writePlace_unchanged_iff hwrite]
      constructor
      · rintro hread ⟨_, held, ⟨⟩, hheld, hne⟩
        exact hne (Option.some.inj (hheld.symm.trans hread))
      · intro h
        cases hread : readPlace invocation state location.verified with
        | none => rw [writePlace_none_iff.mpr hread] at hwrite; cases hwrite
        | some held =>
          by_contra hne
          exact h ⟨raw, held, rfl, hread, fun heq => hne (by rw [heq])⟩

end Outcomes

/-! ## The slips -/

/-- The parameter that the argument has in this call. -/
def FormalAt (invocation : Invocation) (state : InvocationState) (index : Nat)
    (parameter : DartParameterLayout) : Prop :=
  ∃ parameters, (activeParameters invocation state).1 = some parameters ∧
    parameters[index]? = some parameter

/-- The checks of the argument pass, and the write of its word is torn. -/
def ArgumentTorn (invocation : Invocation) (state : InvocationState) (index : Nat)
    (value : DartPlantValue) : Prop :=
  invocation.phase = .enter ∧ index < invocation.argumentCount ∧
    invocation.callLayout.isSome = true ∧ ∃ parameter location raw,
      FormalAt invocation state index parameter ∧ slotLocation parameter = .ok location ∧
        encodeVerifiedWord invocation.values value parameter.representation = .ok raw ∧
          TornWrite invocation state location raw false

/-- The checks of the object argument pass, and the write of its word is torn. -/
def ArgumentObjectTorn (invocation : Invocation) (state : InvocationState) (index : Nat)
    (handle : ObjectHandle) : Prop :=
  invocation.phase = .enter ∧ index < invocation.argumentCount ∧ invocation.vmAdapter = true ∧
    invocation.callLayout.isSome = true ∧ (argumentIsTagged invocation state index).1 = true ∧
      ∃ parameter location raw,
        FormalAt invocation (argumentIsTagged invocation state index).2 index parameter ∧
          parameter.locations = [location] ∧ handleWord handle = .ok raw ∧
            TornWrite invocation state location raw false

/-- The write of the result is torn, or it changes something in a phase in which it may not. -/
def ResultTorn (invocation : Invocation) (state : InvocationState) (value : DartPlantValue) :
    Prop :=
  match invocation.callLayout with
  | some layout => ∃ location raw, slotLocation layout.result = .ok location ∧
      encodeVerifiedWord invocation.values value layout.result.representation = .ok raw ∧
        (TornWrite invocation state location raw true ∨
          invocation.phase = .exception ∧ ChangingWrite invocation state location raw true)
  | none => invocation.phase = .exception ∧ invocation.resultAccess = true ∧
      invocation.hasContext = true ∧ ∃ raw held,
        encodeLegacyWord invocation.values value invocation.legacyTaggedResult
            invocation.legacyResult = .ok raw ∧
          readLocation state invocation.legacyResult = some held ∧ held ≠ raw

/-- The first word of the pair is torn; or it is written and the second one is not, and what is left
differs. -/
def PairTorn (invocation : Invocation) (state : InvocationState) (value : DartPlantValuePair) :
    Prop :=
  invocation.phase ≠ .exception ∧ ∃ layout firstLocation secondLocation first second,
    invocation.callLayout = some layout ∧ layout.result.representation = .pairOfTagged ∧
      layout.result.locations = [firstLocation, secondLocation] ∧
        encodePairWords invocation.values value = .ok (first, second) ∧
          (TornWrite invocation state firstLocation first true ∨ ∃ between,
            writeVerifiedLocation invocation state firstLocation first true = (true, between) ∧
              (readPlace invocation between secondLocation = none ∧ ¬ Unchanged state between ∨
                RootRefuses invocation between secondLocation true ∧
                  ∃ after, writePlace invocation between second secondLocation = some after ∧
                    ¬ Unchanged state after))

/-- The checks of the object result pass, and the write of its word is torn. -/
def ResultObjectTorn (invocation : Invocation) (state : InvocationState)
    (handle : ObjectHandle) : Prop :=
  invocation.phase ≠ .exception ∧ invocation.vmAdapter = true ∧ ∃ layout location raw,
    invocation.callLayout = some layout ∧ layout.result.representation = .tagged ∧
      layout.result.locations = [location] ∧ handleWord handle = .ok raw ∧
        TornWrite invocation state location raw true

/-- The call fails with a part of its work done. -/
def SetterCall.Torn (invocation : Invocation) (state : InvocationState) : SetterCall → Prop
  | .setArgument index (some value) => ArgumentTorn invocation state index value
  | .setArgumentObject index (some handle) => ArgumentObjectTorn invocation state index handle
  | .setResult (some value) => ResultTorn invocation state value
  | .setResultPair (some value) => PairTorn invocation state value
  | .setResultObject (some handle) => ResultObjectTorn invocation state handle
  | _ => False

section Slips
variable {invocation : Invocation} {state state' : InvocationState} {index : Nat}
  {value : DartPlantValue} {handle : ObjectHandle}

theorem setArgument_keeps_iff :
    KeepsOnError state (setArgument invocation state index (some value)) ↔
      ¬ ArgumentTorn invocation state index value := by
  unfold setArgument ArgumentTorn
  dsimp only
  split
  next hclosed =>
    refine iff_of_true (keepsOnError_error refl _) ?_
    rintro ⟨-, hindex, hlayout, _, _, _, _, _, _, hcontext, -⟩
    rcases hclosed with haccess | hnone | hbound
    · simp only [Invocation.argumentAccess, hlayout, Bool.true_or] at haccess
      cases haccess
    · rw [hnone] at hcontext
      cases hcontext
    · omega
  next hopen =>
    have hindex : index < invocation.argumentCount := by
      by_contra hbound
      exact hopen (Or.inr (Or.inr (not_lt.mp hbound)))
    split
    next hphase =>
      exact iff_of_true (keepsOnError_error refl _) fun h => hphase h.1
    next hphase =>
      split
      next hlayout =>
        have hsame := activeParameters_unchanged invocation state
        unfold FormalAt
        cases hactive : activeParameters invocation state with
        | mk parameters after =>
          rw [hactive] at hsame
          cases parameters with
          | none =>
            refine iff_of_true (keepsOnError_error hsame _) ?_
            rintro ⟨-, -, -, _, _, _, ⟨_, ⟨⟩, -⟩, -⟩
          | some parameters =>
            dsimp only
            cases hget : parameters[index]? with
            | none =>
              refine iff_of_true (keepsOnError_error hsame _) ?_
              rintro ⟨-, -, -, _, _, _, ⟨_, ⟨⟩, hformal⟩, -⟩
              rw [hget] at hformal
              cases hformal
            | some parameter =>
              dsimp only
              rw [encodeVerifiedValue_keeps_iff hsame]
              refine not_congr ⟨?_, ?_⟩
              · rintro ⟨location, raw, hslot, hword, htorn⟩
                exact ⟨not_not.mp hphase, hindex, hlayout, parameter, location, raw,
                  ⟨parameters, rfl, hget⟩, hslot, hword, htorn⟩
              · rintro ⟨-, -, -, _, location, raw, ⟨_, ⟨⟩, hformal⟩, hslot, hword, htorn⟩
                obtain rfl := Option.some.inj (hget.symm.trans hformal)
                exact ⟨location, raw, hslot, hword, htorn⟩
      next hlayout =>
        refine iff_of_true ?_ fun h => hlayout h.2.2.1
        unfold encodeLegacyValue
        split
        · exact keepsOnError_error refl _
        split
        · exact keepsOnError_error refl _
        · exact keepsOnError_ok

theorem storeLegacyObject_keeps (hsame : Unchanged state state') {raw : BitVec 64}
    {location : DartPlantAbiLocation} {message : String} :
    KeepsOnError state (storeLegacyObject state' raw location message) := by
  unfold storeLegacyObject
  split
  · exact keepsOnError_error hsame _
  split
  · exact keepsOnError_error hsame _
  · exact keepsOnError_ok

theorem setArgumentObject_keeps_iff :
    KeepsOnError state (setArgumentObject invocation state index (some handle)) ↔
      ¬ ArgumentObjectTorn invocation state index handle := by
  have htagged := argumentIsTagged_unchanged invocation state index
  unfold setArgumentObject ArgumentObjectTorn FormalAt
  cases hcase : argumentIsTagged invocation state index with
  | mk isTagged start =>
    rw [hcase] at htagged
    dsimp only at htagged ⊢
    cases isTagged with
    | false =>
      refine iff_of_true (keepsOnError_error htagged _) ?_
      rintro ⟨-, -, -, -, ⟨⟩, -⟩
    | true =>
      dsimp only
      split
      next hclosed =>
        refine iff_of_true (keepsOnError_error htagged _) ?_
        rintro ⟨-, hindex, -, -, -, _, _, _, _, _, _, hcontext, -⟩
        rcases hclosed with hnone | hbound
        · rw [hnone] at hcontext
          cases hcontext
        · omega
      next hopen =>
        have hindex : index < invocation.argumentCount := by
          by_contra hbound
          exact hopen (Or.inr (not_lt.mp hbound))
        split
        next hphase => exact iff_of_true (keepsOnError_error htagged _) fun h => hphase h.1
        next hphase =>
          split
          next hadapter =>
            refine iff_of_true (keepsOnError_error htagged _) fun h => ?_
            rw [h.2.2.1] at hadapter
            cases hadapter
          next hadapter =>
            cases hword : handleWord handle with
            | error failure =>
              refine iff_of_true (keepsOnError_error htagged _) ?_
              rintro ⟨-, -, -, -, -, _, _, _, _, _, ⟨⟩, -⟩
            | ok raw =>
              dsimp only
              split
              next hlayout =>
                have hactive := activeParameters_unchanged invocation start
                cases hparameters : activeParameters invocation start with
                | mk parameters after =>
                  rw [hparameters] at hactive
                  have hsame := htagged.trans hactive
                  cases parameters with
                  | none =>
                    refine iff_of_true (keepsOnError_error hsame _) ?_
                    rintro ⟨-, -, -, -, -, _, _, _, ⟨_, ⟨⟩, -⟩, -⟩
                  | some parameters =>
                    dsimp only
                    split
                    next location hlocation =>
                      obtain ⟨parameter, hget, hsingle⟩ := Option.map_eq_some_iff.mp hlocation
                      rw [storeVerified_keeps_iff hsame]
                      refine not_congr ⟨fun htorn => ?_, ?_⟩
                      · exact ⟨not_not.mp hphase, hindex, Bool.eq_true_of_not_eq_false hadapter,
                          hlayout, rfl, parameter, location, raw, ⟨parameters, rfl, hget⟩,
                          hsingle, rfl, htorn⟩
                      · rintro ⟨-, -, -, -, -, _, _, _, ⟨_, ⟨⟩, hformal⟩, hlocations, ⟨⟩, htorn⟩
                        obtain rfl := Option.some.inj (hget.symm.trans hformal)
                        rw [hsingle] at hlocations
                        cases hlocations
                        exact htorn
                    next hnone =>
                      refine iff_of_true (keepsOnError_error hsame _) ?_
                      rintro ⟨-, -, -, -, -, parameter, location, _, ⟨_, ⟨⟩, hformal⟩, hlocations,
                        -⟩
                      exact hnone location (by rw [hformal, Option.map_some, hlocations])
              next hlayout =>
                exact iff_of_true (storeLegacyObject_keeps htagged) fun h => hlayout h.2.2.2.1

/-- A result that is not refused at once is written; in an exception the call fails all the same. -/
theorem setResult_open (hopen : ¬ (invocation.resultAccess = false ∨
      invocation.hasContext = false)) :
    KeepsOnError state (setResult invocation state (some value)) ↔
      (if invocation.phase = .exception then Unchanged state (writeResult invocation state value).2
        else KeepsOnError state (writeResult invocation state value)) := by
  unfold setResult
  dsimp only
  rw [if_neg hopen]
  cases writeResult invocation state value with
  | mk written after =>
    cases written with
    | error failure =>
      dsimp only
      split
      · exact ⟨fun h => h failure rfl, fun h _ _ => h⟩
      · exact Iff.rfl
    | ok _ =>
      dsimp only
      split
      · exact ⟨fun h => h _ rfl, fun h _ _ => h⟩
      · exact iff_of_true keepsOnError_ok keepsOnError_ok

theorem setResult_keeps_iff :
    KeepsOnError state (setResult invocation state (some value)) ↔
      ¬ ResultTorn invocation state value := by
  by_cases hclosed : invocation.resultAccess = false ∨ invocation.hasContext = false
  · have hrefused : setResult invocation state (some value) =
        refuse state .unsupportedAbi "result encoding is not enabled by the profile" := by
      rw [setResult, if_pos hclosed]
    rw [hrefused]
    refine iff_of_true (keepsOnError_error refl _) ?_
    unfold ResultTorn
    cases hlayout : invocation.callLayout with
    | none =>
      rintro ⟨-, haccess, hcontext, -⟩
      rcases hclosed with h | h
      · rw [haccess] at h
        cases h
      · rw [hcontext] at h
        cases h
    | some layout =>
      rintro ⟨_, _, -, -, hslip⟩
      have hcontext : invocation.hasContext = true := hslip.elim And.left fun h => h.2.1
      rcases hclosed with h | h
      · simp only [Invocation.resultAccess, hlayout, Option.isSome_some, Bool.true_or] at h
        cases h
      · rw [hcontext] at h
        cases h
  · have haccess : invocation.resultAccess = true ∧ invocation.hasContext = true := by
      simpa only [not_or, Bool.not_eq_false] using hclosed
    rw [setResult_open hclosed, writeResult, ResultTorn]
    split
    next hphase =>
      cases invocation.callLayout with
      | none =>
        dsimp only
        rw [encodeLegacyValue_unchanged_iff]
        simp only [hphase, haccess, true_and]
      | some layout =>
        dsimp only
        rw [encodeVerifiedValue_unchanged_iff]
        simp only [hphase, true_and]
    next hphase =>
      cases invocation.callLayout with
      | none => exact iff_of_true encodeLegacyValue_keeps fun h => hphase h.1
      | some layout =>
        dsimp only
        rw [encodeVerifiedValue_keeps_iff refl]
        simp only [hphase, false_and, or_false]

/-- A call that goes on after a write in the same way keeps the state as the write does. -/
theorem keepsOnError_skipAfter {written : Result Unit × InvocationState} :
    KeepsOnError state (match written with
      | (.error failure, state) => (.error failure, state)
      | (.ok _, state) => (.ok (), skipAfter invocation state)) ↔ KeepsOnError state written := by
  obtain ⟨failure | _, after⟩ := written
  · exact Iff.rfl
  · exact iff_of_true keepsOnError_ok keepsOnError_ok

/-- A further write fails with what it has found, or with a place that it has written. -/
theorem storeVerified_keeps_after {between : InvocationState} {location : DartAbiLocation}
    {raw : BitVec 64} {message : String} (hcontext : invocation.hasContext = true) :
    KeepsOnError state (storeVerified invocation between location raw true message) ↔
      ¬ (readPlace invocation between location = none ∧ ¬ Unchanged state between ∨
        RootRefuses invocation between location true ∧
          ∃ after, writePlace invocation between raw location = some after ∧
            ¬ Unchanged state after) := by
  cases hread : readPlace invocation between location with
  | none =>
    have hwrite : writePlace invocation between raw location = none :=
      writePlace_none_iff.mpr hread
    have hstore : writeVerifiedLocation invocation between location raw true =
        (false, between) := by
      rw [writeVerifiedLocation, hwrite]
      split <;> rfl
    rw [storeVerified, hstore, hwrite]
    constructor
    · rintro hkeeps (⟨-, hchanged⟩ | ⟨-, _, ⟨⟩, -⟩)
      exact hchanged (hkeeps _ rfl)
    · exact fun h => keepsOnError_error (by_contra fun hchanged => h (Or.inl ⟨rfl, hchanged⟩)) _
  | some held =>
    obtain ⟨written, hplace, ⟨hrefuses, hwrite⟩ | ⟨haccepts, after, hwrite, -⟩⟩ :=
      writeVerifiedLocation_spec raw true hcontext hread
    · rw [storeVerified, hwrite, hplace]
      constructor
      · rintro hkeeps (⟨⟨⟩, -⟩ | ⟨-, _, ⟨⟩, hchanged⟩)
        exact hchanged (hkeeps _ rfl)
      · exact fun h => keepsOnError_error (by_contra fun hchanged =>
          h (Or.inr ⟨hrefuses, written, rfl, hchanged⟩)) _
    · rw [storeVerified, hwrite]
      refine iff_of_true keepsOnError_ok ?_
      rintro (⟨⟨⟩, -⟩ | ⟨hrefuses, -⟩)
      exact haccepts hrefuses

/-- The words of a pair are kept as they were unless the writes come to grief between them. -/
theorem pairWords_keeps_iff {firstLocation secondLocation : DartAbiLocation}
    {first second : BitVec 64} {message : String} :
    KeepsOnError state
        (match writeVerifiedLocation invocation state firstLocation first true with
          | (false, state) => refuse state .profileMismatch message
          | (true, state) => storeVerified invocation state secondLocation second true message) ↔
      ¬ (TornWrite invocation state firstLocation first true ∨ ∃ between,
        writeVerifiedLocation invocation state firstLocation first true = (true, between) ∧
          (readPlace invocation between secondLocation = none ∧ ¬ Unchanged state between ∨
            RootRefuses invocation between secondLocation true ∧
              ∃ after, writePlace invocation between second secondLocation = some after ∧
                ¬ Unchanged state after)) := by
  have hfirst : KeepsOnError state
      (storeVerified invocation state firstLocation first true message) ↔
        ¬ TornWrite invocation state firstLocation first true :=
    storeVerified_keeps_iff refl
  have hcontext : (writeVerifiedLocation invocation state firstLocation first true).1 = true →
      invocation.hasContext = true := writeVerifiedLocation_context
  rw [storeVerified] at hfirst
  cases hwrite : writeVerifiedLocation invocation state firstLocation first true with
  | mk written between =>
    rw [hwrite] at hfirst hcontext
    cases written with
    | false =>
      refine hfirst.trans (not_congr ⟨Or.inl, ?_⟩)
      rintro (htorn | ⟨_, ⟨⟩, -⟩)
      exact htorn
    | true =>
      have huntorn := hfirst.mp keepsOnError_ok
      dsimp only
      rw [storeVerified_keeps_after (hcontext rfl)]
      refine not_congr ⟨fun h => Or.inr ⟨between, rfl, h⟩, ?_⟩
      rintro (htorn | ⟨_, ⟨⟩, h⟩)
      · exact absurd htorn huntorn
      · exact h

theorem setResultPair_keeps_iff {pair : DartPlantValuePair} :
    KeepsOnError state (setResultPair invocation state (some pair)) ↔
      ¬ PairTorn invocation state pair := by
  unfold setResultPair PairTorn
  cases hlayout : invocation.callLayout with
  | none =>
    refine iff_of_true (keepsOnError_error refl _) ?_
    rintro ⟨-, _, _, _, _, _, ⟨⟩, -⟩
  | some layout =>
    dsimp only
    split
    next hclosed =>
      refine iff_of_true (keepsOnError_error refl _) ?_
      rintro ⟨-, _, _, _, _, _, -, -, -, -, htorn | ⟨between, hwrite, -⟩⟩
      · rw [htorn.1] at hclosed
        cases hclosed
      · have hcontext := writeVerifiedLocation_context (congrArg Prod.fst hwrite)
        rw [hcontext] at hclosed
        cases hclosed
    split
    next hphase => exact iff_of_true (keepsOnError_error refl _) fun h => h.1 hphase
    next hphase =>
      refine keepsOnError_skipAfter.trans ?_
      unfold encodeVerifiedTaggedPair
      split
      next firstLocation secondLocation hpair hlocations =>
        cases hwords : encodePairWords invocation.values pair with
        | error failure =>
          refine iff_of_true (keepsOnError_error refl _) ?_
          rintro ⟨-, _, _, _, _, _, -, -, -, ⟨⟩, -⟩
        | ok words =>
          obtain ⟨first, second⟩ := words
          refine pairWords_keeps_iff.trans (not_congr ⟨fun h => ?_, ?_⟩)
          · exact ⟨hphase, layout, firstLocation, secondLocation, first, second, rfl, hpair,
              hlocations, rfl, h⟩
          · rintro ⟨-, _, _, _, _, _, ⟨⟩, -, hlocations', ⟨⟩, h⟩
            rw [hlocations] at hlocations'
            cases hlocations'
            exact h
      next hother =>
        refine iff_of_true (keepsOnError_error refl _) ?_
        rintro ⟨-, _, firstLocation, secondLocation, _, _, ⟨⟩, hpair, hlocations, -⟩
        exact hother firstLocation secondLocation hpair hlocations

theorem setResultObject_keeps_iff :
    KeepsOnError state (setResultObject invocation state (some handle)) ↔
      ¬ ResultObjectTorn invocation state handle := by
  unfold setResultObject ResultObjectTorn
  dsimp only
  split
  next hclosed =>
    refine iff_of_true (keepsOnError_error refl _) ?_
    rintro ⟨-, -, layout, _, _, hlayout, htagged, -, -, hcontext, -⟩
    rcases hclosed with h | h
    · simp only [Invocation.resultIsTagged, hlayout, htagged, beq_self_eq_true] at h
      cases h
    · rw [hcontext] at h
      cases h
  next hopen =>
    split
    next hphase => exact iff_of_true (keepsOnError_error refl _) fun h => h.1 hphase
    next hphase =>
      split
      next hadapter =>
        refine iff_of_true (keepsOnError_error refl _) fun h => ?_
        rw [h.2.1] at hadapter
        cases hadapter
      next hadapter =>
        cases hword : handleWord handle with
        | error failure =>
          refine iff_of_true (keepsOnError_error refl _) ?_
          rintro ⟨-, -, _, _, _, -, -, -, ⟨⟩, -⟩
        | ok raw =>
          refine keepsOnError_skipAfter.trans ?_
          unfold writeResultObject
          cases hlayout : invocation.callLayout with
          | none =>
            refine iff_of_true (storeLegacyObject_keeps refl) ?_
            rintro ⟨-, -, _, _, _, ⟨⟩, -⟩
          | some layout =>
            have htagged : layout.result.representation = .tagged := by
              simpa [Invocation.resultIsTagged, hlayout] using (not_or.mp hopen).1
            dsimp only
            split
            next location hlocation =>
              rw [storeVerified_keeps_iff refl]
              refine not_congr ⟨fun htorn => ?_, ?_⟩
              · exact ⟨hphase, Bool.eq_true_of_not_eq_false hadapter, layout, location, raw, rfl,
                  htagged, hlocation, rfl, htorn⟩
              · rintro ⟨-, -, _, _, _, ⟨⟩, -, hlocation', ⟨⟩, htorn⟩
                rw [hlocation] at hlocation'
                cases hlocation'
                exact htorn
            next hother =>
              refine iff_of_true (keepsOnError_error refl _) ?_
              rintro ⟨-, -, _, location, _, ⟨⟩, -, hlocation, -⟩
              exact hother location hlocation

end Slips

/-- A call of any kind, in any phase and by any mapping, changes nothing when it fails, unless it is
one of the slips. -/
theorem setter_keeps_iff (invocation : Invocation) (state : InvocationState) (call : SetterCall) :
    KeepsOnError state (call.run invocation state) ↔ ¬ call.Torn invocation state := by
  cases call with
  | setArgument index value =>
    cases value with
    | none => exact iff_of_true (keepsOnError_error refl _) not_false
    | some value => exact setArgument_keeps_iff
  | setArgumentObject index handle =>
    cases handle with
    | none =>
      refine iff_of_true ?_ not_false
      have htagged := argumentIsTagged_unchanged invocation state index
      simp only [SetterCall.run]
      unfold setArgumentObject
      cases hcase : argumentIsTagged invocation state index with
      | mk isTagged after =>
        rw [hcase] at htagged
        cases isTagged with
        | false => exact keepsOnError_error htagged _
        | true => exact keepsOnError_error htagged _
    | some handle => exact setArgumentObject_keeps_iff
  | setResult value =>
    cases value with
    | none => exact iff_of_true (keepsOnError_error refl _) not_false
    | some value => exact setResult_keeps_iff
  | setResultPair value =>
    cases value with
    | none =>
      refine iff_of_true ?_ not_false
      simp only [SetterCall.run]
      unfold setResultPair
      cases invocation.callLayout with
      | none => exact keepsOnError_error refl _
      | some layout => exact keepsOnError_error refl _
    | some value => exact setResultPair_keeps_iff
  | setResultObject handle =>
    cases handle with
    | none => exact iff_of_true (keepsOnError_error refl _) not_false
    | some handle => exact setResultObject_keeps_iff
  | setGpRegister index value | setFpRegister index value =>
    refine iff_of_true ?_ not_false
    simp only [SetterCall.run, setGpRegister, setFpRegister]
    split
    · exact keepsOnError_error refl _
    split
    · exact keepsOnError_error refl _
    · exact keepsOnError_ok
  | skipOriginal =>
    refine iff_of_true ?_ not_false
    simp only [SetterCall.run, skipOriginal]
    split
    · exact keepsOnError_error refl _
    · exact keepsOnError_ok

/-- A result set during an exception is refused and written. -/
theorem exception_result_written :
    ¬ KeepsOnError mixedState
      ((SetterCall.setResult (some ⟨.smi, 0, 2⟩)).run
        { mixedInvocation with phase := .exception } mixedState) := by
  intro h
  have hresult : (SetterCall.setResult (some ⟨.smi, 0, 2⟩)).run
      { mixedInvocation with phase := .exception } mixedState =
        (.error ⟨.invalidInvocationPhase, "result cannot be changed in this phase"⟩,
          { mixedState with context := mixedState.context.setX 0 2 }) := rfl
  rw [hresult] at h
  have hregister := congrArg (fun context => context.x 0) (h _ rfl).context
  cases hregister

end DartPlant
