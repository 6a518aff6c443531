import DartPlant.Interceptor.SetterAtomicity
import DartPlant.Lib.Runs

/-! # Callbacks that throw

When a callback throws, the registers and the two flags are put back as they were before it.  So its
calls leave no trace as long as they change nothing else (`throwing_callback_no_trace`); but a word
on the entry stack, a root or a mapping of closure arguments made by one of them stays.
-/

namespace DartPlant
open ByteMemory Runs

/-- What a callback does: the calls that it makes, and whether it throws after them. -/
structure CallbackRun where
  calls : List SetterCall
  throws : Bool

/-- One call of the callback. -/
def callStep (invocation : Invocation) (state : InvocationState) (call : SetterCall) :
    InvocationState :=
  (call.run invocation state).2

/-- `InvokeCallback`: whether the callback came to its end, and the state after it. -/
def invokeCallback (invocation : Invocation) (state : InvocationState) (callback : CallbackRun) :
    Bool × InvocationState :=
  let after := callback.calls.foldl (callStep invocation) state
  if callback.throws then
    (false, { after with
      context := state.context
      skipOriginal := state.skipOriginal
      callOriginal := state.callOriginal })
  else (true, after)

/-! ## What lasts -/

/-- A write to the location outlasts the callback: the entry stack is not put back, nor is a root
that takes the word. -/
def Lasting (invocation : Invocation) (state : InvocationState) (location : DartAbiLocation)
    (isResult : Bool) : Prop :=
  (∃ offset, location = .entryStack offset) ∨ location.rootable = true ∧ ∃ access,
    invocation.rootOf location isResult = some access ∧ invocation.rootStatus = .ok ∧
      access.rootIndex < state.roots.length

/-- Looking for a parameter makes no mapping: there is none to make, or it was made. -/
def MappingSettled (invocation : Invocation) (state : InvocationState) : Prop :=
  invocation.callLayout.bind DartCallLayout.closureSignature = none ∨
    state.closureMapping.attempted = true

/-- The argument is at no location of that kind. -/
def ArgumentRecoverable (invocation : Invocation) (state : InvocationState) (index : Nat) : Prop :=
  ∀ parameter, FormalAt invocation state index parameter →
    ∀ location ∈ parameter.locations, ¬ Lasting invocation state location false

def ResultRecoverable (invocation : Invocation) (state : InvocationState) : Prop :=
  ∀ layout, invocation.callLayout = some layout →
    ∀ location ∈ layout.result.locations, ¬ Lasting invocation state location true

/-- All that the call may change is put back when the callback throws.  An object argument is looked
for in every phase, other arguments during enter only. -/
def SetterCall.Recoverable (invocation : Invocation) (state : InvocationState) :
    SetterCall → Prop
  | .setArgument index _ => invocation.phase = .enter → index < invocation.argumentCount →
      MappingSettled invocation state ∧ ArgumentRecoverable invocation state index
  | .setArgumentObject index _ => MappingSettled invocation state ∧
      (invocation.phase = .enter → ArgumentRecoverable invocation state index)
  | .setResult _ => ResultRecoverable invocation state
  | .setResultPair _ | .setResultObject _ =>
    invocation.phase ≠ .exception → ResultRecoverable invocation state
  | .setGpRegister _ _ | .setFpRegister _ _ | .skipOriginal => True

/-- The parts of the state that are not put back are the same. -/
structure Lasts (state after : InvocationState) : Prop where
  memory : after.memory = state.memory
  roots : after.roots = state.roots
  mapping : after.closureMapping = state.closureMapping

open Lasts

section Writes
variable {invocation : Invocation} {state after : InvocationState} {location : DartAbiLocation}
  {raw : BitVec 64} {isResult : Bool}

theorem Lasts.refl : Lasts state state := ⟨rfl, rfl, rfl⟩

theorem Lasts.trans {last : InvocationState} (h : Lasts state after) (hlast : Lasts after last) :
    Lasts state last :=
  ⟨hlast.memory.trans h.memory, hlast.roots.trans h.roots, hlast.mapping.trans h.mapping⟩

theorem Lasts.lasting (h : Lasts state after) :
    Lasting invocation after location isResult ↔ Lasting invocation state location isResult := by
  unfold Lasting
  rw [h.roots]

theorem ensureClosureArgumentMapping_settled (h : MappingSettled invocation state) :
    (ensureClosureArgumentMapping invocation state).2 = state := by
  unfold ensureClosureArgumentMapping
  cases hlayout : invocation.callLayout with
  | none => rfl
  | some layout =>
    rw [MappingSettled, hlayout, Option.bind_some] at h
    rw [Option.bind_some]
    cases hsignature : layout.closureSignature with
    | none => rfl
    | some signature =>
      rw [hsignature] at h
      have hattempted : state.closureMapping.attempted = true := h.resolve_left nofun
      simp only [Option.map_some, hattempted, if_true]

theorem activeParameters_settled (h : MappingSettled invocation state) :
    (activeParameters invocation state).2 = state := by
  have hensure := ensureClosureArgumentMapping_settled h
  unfold activeParameters
  cases hcase : ensureClosureArgumentMapping invocation state with
  | mk found after =>
    rw [hcase] at hensure
    cases found with
    | error message => exact hensure
    | ok _ =>
      dsimp only
      split
      · exact hensure
      · exact hensure

theorem argumentIsTagged_settled {index : Nat} (h : MappingSettled invocation state) :
    (argumentIsTagged invocation state index).2 = state := by
  unfold argumentIsTagged
  split
  · exact activeParameters_settled h
  · rfl

/-- A write that does not last changes the registers at most. -/
theorem writeVerifiedLocation_lasts (h : ¬ Lasting invocation state location isResult) :
    Lasts state (writeVerifiedLocation invocation state location raw isResult).2 := by
  have hplace : ∀ written, writePlace invocation state raw location = some written →
      Lasts state written := by
    intro written hwrite
    obtain ⟨hroots, hmapping⟩ := writePlace_roots hwrite
    refine ⟨?_, hroots, hmapping⟩
    cases location with
    | unknown => cases hwrite
    | entryStack offset => exact absurd (Or.inl ⟨offset, rfl⟩) h
    | gpRegister index | fpuRegister index =>
      rw [writePlace] at hwrite
      split at hwrite
      · rw [← Option.some.inj hwrite]
      · cases hwrite
  rcases writeVerifiedLocation_cases invocation state location raw isResult with
    hcase | ⟨written, hwrite, ⟨hcase, -⟩ | ⟨access, haccess, ⟨-, hcase⟩ | ⟨rooted, hset, hcase⟩⟩⟩
  · rw [hcase]
    exact refl
  · rw [hcase]
    exact hplace written hwrite
  · rw [hcase]
    exact hplace written hwrite
  · obtain ⟨hstatus, hindex, -⟩ := generatedRootSet_some hset
    rw [(writePlace_roots hwrite).1] at hindex
    by_cases hrootable : location.rootable = true
    · exact absurd (Or.inr ⟨hrootable, access, haccess, hstatus, hindex⟩) h
    · -- Without a root to write, the place is all that there is.
      cases location with
      | gpRegister | entryStack => exact absurd rfl hrootable
      | unknown => cases hwrite
      | fpuRegister index =>
        have hvector : (writeVerifiedLocation invocation state (.fpuRegister index) raw
            isResult).2 = written ∨ (writeVerifiedLocation invocation state (.fpuRegister index) raw
            isResult).2 = state := by
          unfold writeVerifiedLocation
          split
          · exact Or.inr rfl
          · rw [hwrite]
            exact Or.inl rfl
        rcases hvector with hvector | hvector
        · rw [hvector]
          exact hplace written hwrite
        · rw [hvector]
          exact refl

theorem storeVerified_lasts {message : String} (h : ¬ Lasting invocation state location isResult) :
    Lasts state (storeVerified invocation state location raw isResult message).2 := by
  rw [storeVerified_state]
  exact writeVerifiedLocation_lasts h

theorem writeLocation_lasts {legacy : DartPlantAbiLocation}
    (h : writeLocation state raw legacy = some after) : Lasts state after := by
  cases legacy with
  | gpRegister index | fpRegister index =>
    rw [writeLocation] at h
    split at h
    · rw [← Option.some.inj h]
      exact ⟨rfl, rfl, rfl⟩
    · cases h

theorem encodeLegacyValue_lasts {value : DartPlantValue} {isTagged : Bool}
    {legacy : DartPlantAbiLocation} :
    Lasts state (encodeLegacyValue invocation state value isTagged legacy).2 := by
  unfold encodeLegacyValue
  split
  · exact refl
  split
  · exact refl
  next hwrite => exact writeLocation_lasts hwrite

theorem storeLegacyObject_lasts {legacy : DartPlantAbiLocation} {message : String} :
    Lasts state (storeLegacyObject state raw legacy message).2 := by
  unfold storeLegacyObject
  split
  · exact refl
  split
  · exact refl
  next hwrite => exact writeLocation_lasts hwrite

theorem encodeVerifiedValue_lasts {layout : DartParameterLayout} {value : DartPlantValue}
    (h : ∀ location ∈ layout.locations, ¬ Lasting invocation state location isResult) :
    Lasts state (encodeVerifiedValue invocation state layout value isResult).2 := by
  unfold encodeVerifiedValue
  cases hslot : slotLocation layout with
  | error failure => exact refl
  | ok location =>
    dsimp only
    cases encodeVerifiedWord invocation.values value layout.representation with
    | error failure => exact refl
    | ok raw =>
      refine storeVerified_lasts (h location ?_)
      rw [slotLocation_ok hslot]
      exact List.mem_singleton_self location

theorem encodeVerifiedTaggedPair_lasts {layout : DartParameterLayout} {pair : DartPlantValuePair}
    (h : ∀ location ∈ layout.locations, ¬ Lasting invocation state location isResult) :
    Lasts state (encodeVerifiedTaggedPair invocation state layout pair isResult).2 := by
  unfold encodeVerifiedTaggedPair
  split
  next firstLocation secondLocation _ hlocations =>
    rw [hlocations] at h
    cases encodePairWords invocation.values pair with
    | error failure => exact refl
    | ok words =>
      obtain ⟨first, second⟩ := words
      have hfirst : Lasts state
          (writeVerifiedLocation invocation state firstLocation first isResult).2 :=
        writeVerifiedLocation_lasts (h firstLocation List.mem_cons_self)
      dsimp only
      split
      next hwrite =>
        rw [hwrite] at hfirst
        exact hfirst
      next hwrite =>
        rw [hwrite] at hfirst
        refine hfirst.trans (storeVerified_lasts ?_)
        rw [hfirst.lasting]
        exact h secondLocation (List.mem_cons_of_mem _ List.mem_cons_self)
  · exact refl

theorem skipAfter_lasts : Lasts state (skipAfter invocation state) := by
  unfold skipAfter
  split
  · exact ⟨rfl, rfl, rfl⟩
  · exact refl

end Writes

/-! ## The calls -/

section Calls
variable {invocation : Invocation} {state : InvocationState} {index : Nat}

theorem setArgument_lasts {value : Option DartPlantValue}
    (h : (SetterCall.setArgument index value).Recoverable invocation state) :
    Lasts state (setArgument invocation state index value).2 := by
  unfold setArgument
  cases value with
  | none => exact refl
  | some value =>
    dsimp only
    split
    · exact refl
    next hopen =>
    split
    · exact refl
    next hphase =>
    split
    · have hindex : index < invocation.argumentCount := by
        by_contra hbound
        exact hopen (Or.inr (Or.inr (not_lt.mp hbound)))
      obtain ⟨hsettled, hlocations⟩ := h (not_not.mp hphase) hindex
      have hactive := activeParameters_settled hsettled
      cases hcase : activeParameters invocation state with
      | mk parameters after =>
        rw [hcase] at hactive
        obtain rfl : after = state := hactive
        cases parameters with
        | none => exact refl
        | some parameters =>
          dsimp only
          cases hget : parameters[index]? with
          | none => exact refl
          | some parameter =>
            exact encodeVerifiedValue_lasts (hlocations parameter
              ⟨parameters, by rw [hcase], hget⟩)
    · exact encodeLegacyValue_lasts

theorem setArgumentObject_lasts {handle : Option ObjectHandle}
    (h : (SetterCall.setArgumentObject index handle).Recoverable invocation state) :
    Lasts state (setArgumentObject invocation state index handle).2 := by
  obtain ⟨hsettled, hlocations⟩ := h
  have htagged : (argumentIsTagged invocation state index).2 = state :=
    argumentIsTagged_settled hsettled
  have hactive := activeParameters_settled hsettled
  unfold setArgumentObject
  cases hcase : argumentIsTagged invocation state index with
  | mk isTagged start =>
    rw [hcase] at htagged
    obtain rfl : start = state := htagged
    cases isTagged with
    | false => exact refl
    | true =>
      cases handle with
      | none => exact refl
      | some handle =>
        dsimp only
        split
        · exact refl
        split
        · exact refl
        next hphase =>
        split
        · exact refl
        cases handleWord handle with
        | error failure => exact refl
        | ok raw =>
          dsimp only
          split
          · cases hparameters : activeParameters invocation start with
            | mk parameters after =>
              rw [hparameters] at hactive
              obtain rfl : after = start := hactive
              cases parameters with
              | none => exact refl
              | some parameters =>
                dsimp only
                split
                next location hlocation =>
                  obtain ⟨parameter, hget, hsingle⟩ := Option.map_eq_some_iff.mp hlocation
                  refine storeVerified_lasts (hlocations (not_not.mp hphase) parameter
                    ⟨parameters, by rw [hparameters], hget⟩ location ?_)
                  rw [hsingle]
                  exact List.mem_singleton_self location
                · exact refl
          · exact storeLegacyObject_lasts

theorem setResult_lasts {value : Option DartPlantValue}
    (h : ResultRecoverable invocation state) :
    Lasts state (setResult invocation state value).2 := by
  unfold setResult
  cases value with
  | none => exact refl
  | some value =>
    dsimp only
    split
    · exact refl
    have hwrite : Lasts state (writeResult invocation state value).2 := by
      unfold writeResult
      cases hlayout : invocation.callLayout with
      | none => exact encodeLegacyValue_lasts
      | some layout => exact encodeVerifiedValue_lasts (h layout hlayout)
    split
    next hcase =>
      rw [hcase] at hwrite
      exact hwrite
    next hcase =>
      rw [hcase] at hwrite
      split
      · exact hwrite
      · exact hwrite.trans skipAfter_lasts

theorem setResultPair_lasts {pair : Option DartPlantValuePair}
    (h : (SetterCall.setResultPair pair).Recoverable invocation state) :
    Lasts state (setResultPair invocation state pair).2 := by
  unfold setResultPair
  split
  next layout pair hlayout =>
    split
    · exact refl
    split
    · exact refl
    next hphase =>
    have hwrite : Lasts state
        (encodeVerifiedTaggedPair invocation state layout.result pair true).2 :=
      encodeVerifiedTaggedPair_lasts (h hphase layout hlayout)
    split
    next hcase =>
      rw [hcase] at hwrite
      exact hwrite
    next hcase =>
      rw [hcase] at hwrite
      exact hwrite.trans skipAfter_lasts
  · exact refl

theorem setResultObject_lasts {handle : Option ObjectHandle}
    (h : (SetterCall.setResultObject handle).Recoverable invocation state) :
    Lasts state (setResultObject invocation state handle).2 := by
  unfold setResultObject
  cases handle with
  | none => exact refl
  | some handle =>
    dsimp only
    split
    · exact refl
    split
    · exact refl
    next hphase =>
    split
    · exact refl
    cases handleWord handle with
    | error failure => exact refl
    | ok raw =>
      have hwrite : Lasts state (writeResultObject invocation state raw).2 := by
        unfold writeResultObject
        cases hlayout : invocation.callLayout with
        | none => exact storeLegacyObject_lasts
        | some layout =>
          dsimp only
          split
          next location hlocation =>
            refine storeVerified_lasts (h hphase layout hlayout location ?_)
            rw [hlocation]
            exact List.mem_singleton_self location
          · exact refl
      dsimp only
      split
      next hcase =>
        rw [hcase] at hwrite
        exact hwrite
      next hcase =>
        rw [hcase] at hwrite
        exact hwrite.trans skipAfter_lasts

/-- A recoverable call changes nothing that is not put back. -/
theorem SetterCall.Recoverable.lasts {call : SetterCall}
    (h : call.Recoverable invocation state) : Lasts state (callStep invocation state call) := by
  cases call with
  | setArgument index value => exact setArgument_lasts h
  | setArgumentObject index handle => exact setArgumentObject_lasts h
  | setResult value => exact setResult_lasts h
  | setResultPair pair => exact setResultPair_lasts h
  | setResultObject handle => exact setResultObject_lasts h
  | setGpRegister index value | setFpRegister index value =>
    simp only [callStep, SetterCall.run, DartPlant.setGpRegister, DartPlant.setFpRegister]
    split
    · exact refl
    split
    · exact refl
    · exact ⟨rfl, rfl, rfl⟩
  | skipOriginal =>
    simp only [callStep, SetterCall.run, DartPlant.skipOriginal]
    split
    · exact refl
    · exact ⟨rfl, rfl, rfl⟩

end Calls

/-! ## Traces -/

/-- A callback that throws leaves the state as it found it, if every call that it makes changes
nothing but what is put back: then whatever is read or delivered later is the same as without it. -/
theorem throwing_callback_no_trace {invocation : Invocation} {state : InvocationState}
    {callback : CallbackRun} (hthrows : callback.throws = true)
    (hcalls : AlongSteps (callStep invocation) (fun state call => call.Recoverable invocation state)
      state callback.calls) :
    (invokeCallback invocation state callback).2 = state := by
  have hlasts : Along (callStep invocation) (Lasts state) state callback.calls :=
    along_of_invariant (fun before call hbefore hcall => hbefore.trans hcall.lasts) hcalls
      refl
  obtain ⟨hmemory, hroots, hmapping⟩ := hlasts callback.calls (List.prefix_refl _)
  unfold invokeCallback
  rw [if_pos hthrows]
  dsimp only
  rw [hmemory, hroots, hmapping]

/-- A callback on the registers alone. -/
theorem throwing_callback_no_trace_registers :
    (invokeCallback mixedInvocation mixedState
      ⟨[.setArgument 0 (some ⟨.smi, 0, 2⟩), .setGpRegister 3 7], true⟩).2 = mixedState := by
  refine throwing_callback_no_trace rfl ?_
  simp only [alongSteps_cons, alongSteps_nil, and_true]
  refine ⟨fun _ _ => ⟨Or.inl rfl, ?_⟩, trivial⟩
  rintro parameter ⟨parameters, hactive, hget⟩ location hlocation hlasting
  obtain rfl := Option.some.inj hactive
  obtain rfl := Option.some.inj hget
  obtain rfl := List.mem_singleton.mp hlocation
  rcases hlasting with ⟨_, ⟨⟩⟩ | ⟨-, _, ⟨⟩, -⟩

/-- An argument on the entry stack keeps what a callback set before it threw. -/
theorem stack_argument_kept :
    (getArgument mixedInvocation mixedState 1).1 = .ok ⟨.smi, 0, 0⟩ ∧
      (getArgument mixedInvocation (invokeCallback mixedInvocation mixedState
        ⟨[.setArgument 1 (some ⟨.smi, 0, 2⟩)], true⟩).2 1).1 = .ok ⟨.smi, 0, 2⟩ := by
  refine ⟨?_, ?_⟩
  · decide +kernel
  · decide +kernel

end DartPlant
