import DartPlant.Abi.CallingConvention

/-! # The places of arguments

The assignment of a call's parameters, said outright: parameter `index` takes the next register of
its own sequence while there is one and the register limit allows, and the parameters left over are
packed on the entry stack, the last of them at the top (`layoutOf_places`).
-/

namespace DartPlant
open Option

/-! ## Registers -/

/-- The values that go into general-purpose registers. -/
def DartAbiRepresentation.usesGp : DartAbiRepresentation → Bool
  | .tagged | .unboxedInt64 => true
  | _ => false

def DartAbiRepresentation.usesFpu : DartAbiRepresentation → Bool
  | .unboxedDouble => true
  | _ => false

/-- The register of a parameter: the one of its sequence that has as many before it as there are
parameters before this one that use the sequence. -/
def registerFor (limit : Nat) (gp fpu : List Nat) (parameters : List DartAbiRepresentation)
    (index : Nat) : Option DartAbiLocation :=
  if index < limit then
    match parameters[index]? with
    | some representation =>
      if representation.usesGp then
        (gp[(parameters.take index).countP DartAbiRepresentation.usesGp]?).map .gpRegister
      else if representation.usesFpu then
        (fpu[(parameters.take index).countP DartAbiRepresentation.usesFpu]?).map .fpuRegister
      else none
    | none => none
  else none

section Registers
variable {limit : Nat} {gp fpu : List Nat} {parameters : List DartAbiRepresentation} {index : Nat}

theorem registerFor_zero : registerFor 0 gp fpu parameters index = none := by
  rw [registerFor, if_neg (Nat.not_lt_zero index)]

/-- What the first parameter leaves is assigned by itself. -/
theorem registerFor_succ {representation : DartAbiRepresentation} {gp' fpu' : List Nat}
    (hgp : ∀ count, gp'[count]? =
      gp[count + if representation.usesGp then 1 else 0]?)
    (hfpu : ∀ count, fpu'[count]? =
      fpu[count + if representation.usesFpu then 1 else 0]?) :
    registerFor (limit + 1) gp fpu (representation :: parameters) (index + 1) =
      registerFor limit gp' fpu' parameters index := by
  simp only [registerFor, Nat.add_lt_add_iff_right, List.getElem?_cons_succ, List.take_succ_cons,
    List.countP_cons, hgp, hfpu]

/-- One turn of the loop: the register of the parameter, and what is left for the others. -/
theorem assignRegisters_cons (limit : Nat) (gp fpu : List Nat)
    (representation : DartAbiRepresentation) (rest : List DartAbiRepresentation) :
    ∃ gp' fpu', assignRegisters (limit + 1) gp fpu (representation :: rest) =
        registerFor (limit + 1) gp fpu (representation :: rest) 0 ::
          assignRegisters limit gp' fpu' rest ∧
      (∀ count, gp'[count]? = gp[count + if representation.usesGp then 1 else 0]?) ∧
        ∀ count, fpu'[count]? = fpu[count + if representation.usesFpu then 1 else 0]? := by
  have hleft : ∀ registers : List Nat, registers = [] → ∀ count : Nat,
      registers[count]? = registers[count + 1]? := by
    rintro _ rfl count
    rfl
  cases representation with
  | unknown | pairOfTagged => exact ⟨gp, fpu, by cases gp <;> cases fpu <;> rfl, fun _ => rfl,
      fun _ => rfl⟩
  | tagged | unboxedInt64 =>
    cases gp with
    | nil => exact ⟨[], fpu, by cases fpu <;> rfl, hleft [] rfl, fun _ => rfl⟩
    | cons register gp => exact ⟨gp, fpu, by cases fpu <;> rfl, fun _ => rfl, fun _ => rfl⟩
  | unboxedDouble =>
    cases fpu with
    | nil => exact ⟨gp, [], by cases gp <;> rfl, fun _ => rfl, hleft [] rfl⟩
    | cons register fpu => exact ⟨gp, fpu, by cases gp <;> rfl, fun _ => rfl, fun _ => rfl⟩

/-- The loop assigns the registers as said. -/
theorem assignRegisters_getElem? :
    (assignRegisters limit gp fpu parameters)[index]? =
      parameters[index]?.map fun _ => registerFor limit gp fpu parameters index := by
  induction parameters generalizing limit gp fpu index with
  | nil => cases limit <;> rfl
  | cons representation rest ih =>
    cases limit with
    | zero =>
      rw [assignRegisters]
      cases index with
      | zero => rfl
      | succ index =>
        rw [List.getElem?_cons_succ, List.getElem?_cons_succ, ih]
        simp only [registerFor_zero]
    | succ limit =>
      obtain ⟨gp', fpu', hassign, hgp, hfpu⟩ :=
        assignRegisters_cons limit gp fpu representation rest
      rw [hassign]
      cases index with
      | zero => rfl
      | succ index =>
        rw [List.getElem?_cons_succ, List.getElem?_cons_succ, ih, registerFor_succ hgp hfpu]

/-- A parameter that uses the sequence moves the later ones on. -/
theorem countP_take_lt {uses : DartAbiRepresentation → Bool} {other : Nat}
    {representation : DartAbiRepresentation} (hlt : index < other)
    (hget : parameters[index]? = some representation) (huses : uses representation = true) :
    (parameters.take index).countP uses < (parameters.take other).countP uses := by
  have hsucc : (parameters.take (index + 1)).countP uses =
      (parameters.take index).countP uses + 1 := by
    rw [List.take_add_one, hget, toList_some, List.countP_append, List.countP_singleton,
      if_pos huses]
  have hmono : (parameters.take (index + 1)).countP uses ≤ (parameters.take other).countP uses :=
    List.Sublist.countP_le (List.take_sublist_take_left hlt)
  omega

/-- Two parameters never take the same register. -/
theorem registerFor_injective (hgp : gp.Nodup) (hfpu : fpu.Nodup) {other : Nat}
    {location : DartAbiLocation} (hlt : index < other)
    (hindex : registerFor limit gp fpu parameters index = some location)
    (hother : registerFor limit gp fpu parameters other = some location) : False := by
  have hsame : ∀ (registers : List Nat) (uses : DartAbiRepresentation → Bool)
      (place : Nat → DartAbiLocation) (representation : DartAbiRepresentation),
      registers.Nodup → Function.Injective place → parameters[index]? = some representation →
      uses representation = true →
      (registers[(parameters.take index).countP uses]?).map place = some location →
      (registers[(parameters.take other).countP uses]?).map place = some location → False := by
    intro registers uses place representation hnodup hinjective hget huses hfirst hsecond
    obtain ⟨first, hfirstGet, hfirst⟩ := map_eq_some_iff.mp hfirst
    obtain ⟨second, hsecondGet, hsecond⟩ := map_eq_some_iff.mp hsecond
    obtain rfl := hinjective (hfirst.trans hsecond.symm)
    have hbound := (List.getElem?_eq_some_iff.mp hsecondGet).1
    exact List.nodup_iff_getElem?_ne_getElem?.mp hnodup _ _ (countP_take_lt hlt hget huses) hbound
      (hfirstGet.trans hsecondGet.symm)
  unfold registerFor at hindex hother
  split at hindex
  on_goal 2 => cases hindex
  split at hother
  on_goal 2 => cases hother
  split at hindex
  on_goal 2 => cases hindex
  next hget =>
    split at hother
    on_goal 2 => cases hother
    split at hindex
    next huses =>
      split at hother
      · exact hsame gp _ _ _ hgp (fun _ _ => DartAbiLocation.gpRegister.inj) hget huses hindex
          hother
      · split at hother
        · obtain ⟨_, _, rfl⟩ := map_eq_some_iff.mp hindex
          obtain ⟨_, _, hplace⟩ := map_eq_some_iff.mp hother
          cases hplace
        · cases hother
    next =>
      split at hindex
      on_goal 2 => cases hindex
      next huses =>
        split at hother
        · obtain ⟨_, _, rfl⟩ := map_eq_some_iff.mp hindex
          obtain ⟨_, _, hplace⟩ := map_eq_some_iff.mp hother
          cases hplace
        · split at hother
          · exact hsame fpu _ _ _ hfpu (fun _ _ => DartAbiLocation.fpuRegister.inj) hget huses
              hindex hother
          · cases hother

end Registers

/-! ## The entry stack -/

section Stack
variable {profile : DartCallingConventionProfile} {registers : List (Option DartAbiLocation)}
  {index : Nat}

/-- How many parameters after this one are on the stack. -/
def stackWordsAfter (registers : List (Option DartAbiLocation)) (index : Nat) : Nat :=
  (registers.drop (index + 1)).countP Option.isNone

theorem assignStack_slot : (assignStack profile registers).2 =
    profile.fpToEntrySpSlotDelta + registers.countP Option.isNone := by
  induction registers with
  | nil => simp [assignStack]
  | cons register rest ih =>
    cases register with
    | none =>
      rw [assignStack]
      simp only [ih, List.countP_cons, isNone_none, if_true]
      omega
    | some location =>
      rw [assignStack]
      simp only [ih, List.countP_cons, isNone_some, Bool.false_eq_true, if_false,
        Nat.add_zero]

/-- A parameter without a register is as many words above the stack pointer as there are such
parameters after it. -/
theorem assignStack_getElem? : (assignStack profile registers).1[index]? =
    registers[index]?.map fun register =>
      register.getD (.entryStack (stackWordsAfter registers index * profile.wordSize)) := by
  induction registers generalizing index with
  | nil => rfl
  | cons register rest ih =>
    have htail : stackWordsAfter (register :: rest) (index + 1) = stackWordsAfter rest index := rfl
    cases register with
    | none =>
      rw [assignStack]
      cases index with
      | zero =>
        simp only [assignStack_slot, List.getElem?_cons_zero, map_some, getD_none,
          stackWordsAfter, Nat.zero_add, List.drop_succ_cons, List.drop_zero, add_sub_cancel_left]
      | succ index => simpa only [List.getElem?_cons_succ, stackWordsAfter, List.drop_succ_cons]
          using ih
    | some location =>
      rw [assignStack]
      cases index with
      | zero => rfl
      | succ index => simpa only [List.getElem?_cons_succ, stackWordsAfter, List.drop_succ_cons]
          using ih

/-- The parameters on the stack have one word each, from the top down. -/
theorem stackWordsAfter_lt (h : registers[index]? = some none) :
    stackWordsAfter registers index < registers.countP Option.isNone := by
  have hsplit : registers.countP Option.isNone = (registers.take index).countP Option.isNone +
      (registers.drop index).countP Option.isNone := by
    rw [← List.countP_append, List.take_append_drop]
  have hcons : registers.drop index = none :: registers.drop (index + 1) := by
    obtain ⟨hlt, hget⟩ := List.getElem?_eq_some_iff.mp h
    rw [← hget, List.drop_eq_getElem_cons hlt]
  rw [hcons, List.countP_cons] at hsplit
  rw [stackWordsAfter, hsplit]
  simp only [isNone_none, if_true]
  omega

theorem stackWordsAfter_anti {other : Nat} (hlt : index < other)
    (h : registers[other]? = some none) :
    stackWordsAfter registers other < stackWordsAfter registers index := by
  have hdrop : (registers.drop (index + 1))[other - (index + 1)]? = some none := by
    rw [List.getElem?_drop, ← h]
    congr 1
    omega
  have hword := stackWordsAfter_lt hdrop
  rw [stackWordsAfter, List.drop_drop] at hword
  rw [stackWordsAfter, stackWordsAfter]
  convert hword using 3
  omega

/-- Every word of the stack area is some parameter's. -/
theorem exists_stackWordsAfter {count : Nat} (h : count < registers.countP Option.isNone) :
    ∃ index, registers[index]? = some none ∧ stackWordsAfter registers index = count := by
  induction registers with
  | nil => cases h
  | cons register rest ih =>
    by_cases hrest : count < rest.countP Option.isNone
    · obtain ⟨index, hget, hcount⟩ := ih hrest
      exact ⟨index + 1, hget, hcount⟩
    · cases register with
      | some location =>
        rw [List.countP_cons] at h
        exact absurd h hrest
      | none =>
        rw [List.countP_cons] at h
        simp only [isNone_none, if_true] at h
        exact ⟨0, rfl, by rw [stackWordsAfter]; simp only [Nat.zero_add, List.drop_succ_cons,
          List.drop_zero]; omega⟩

end Stack

/-! ## The layout -/

section Layout
variable {profile : DartCallingConventionProfile} {limit : Nat}
  {parameters : List DartAbiRepresentation} {result : DartAbiRepresentation}

/-- The parameter is at exactly this location. -/
def LocatedAt (layout : DartCallLayout) (index : Nat) (location : DartAbiLocation) : Prop :=
  ∃ representation, layout.parameters[index]? =
    some (DartParameterLayout.mk representation [location])

/-- Every parameter has a place of its own: the register that its sequence has left for it, else
one of the words of the entry stack, which are all taken, the last parameter's at the top. -/
structure ParametersPlaced (profile : DartCallingConventionProfile) (limit : Nat)
    (parameters : List DartAbiRepresentation) (layout : DartCallLayout) : Prop where
  length : layout.parameters.length = parameters.length
  one : ∀ (index : Nat) representation, parameters[index]? = some representation →
    ∃ location, layout.parameters[index]? = some (DartParameterLayout.mk representation [location])
  distinct : ∀ index other location, LocatedAt layout index location →
    LocatedAt layout other location → index = other
  register : ∀ index location, registerFor limit profile.gpArgumentRegisters
      profile.fpuArgumentRegisters parameters index = some location →
    LocatedAt layout index location
  stack : ∀ index < parameters.length, registerFor limit profile.gpArgumentRegisters
      profile.fpuArgumentRegisters parameters index = none →
    ∃ word < layout.stackWords,
      LocatedAt layout index (.entryStack ((word : Int) * profile.wordSize))
  packed : ∀ word < layout.stackWords, ∃ index,
    LocatedAt layout index (.entryStack ((word : Int) * profile.wordSize))
  descending : ∀ index other, index < other → ∀ offset offset',
    LocatedAt layout index (.entryStack offset) → LocatedAt layout other (.entryStack offset') →
    offset' < offset

/-- Where the parameter goes. -/
def argumentPlace (profile : DartCallingConventionProfile) (limit : Nat)
    (parameters : List DartAbiRepresentation) (index : Nat) : DartAbiLocation :=
  (registerFor limit profile.gpArgumentRegisters profile.fpuArgumentRegisters parameters
    index).getD (.entryStack (stackWordsAfter (assignRegisters limit profile.gpArgumentRegisters
      profile.fpuArgumentRegisters parameters) index * profile.wordSize))

theorem layoutOf_getElem? (index : Nat) :
    (layoutOf profile limit parameters result).parameters[index]? =
      parameters[index]?.map fun representation => DartParameterLayout.mk representation
        [argumentPlace profile limit parameters index] := by
  simp only [layoutOf, List.getElem?_zipWith, assignStack_getElem?, assignRegisters_getElem?]
  cases parameters[index]? <;> rfl

theorem layoutOf_length :
    (layoutOf profile limit parameters result).parameters.length = parameters.length := by
  have hnone : ∀ index : Nat, (layoutOf profile limit parameters result).parameters.length ≤ index ↔
      parameters.length ≤ index := by
    intro index
    rw [← List.getElem?_eq_none_iff, layoutOf_getElem?, map_eq_none_iff,
      List.getElem?_eq_none_iff]
  exact Nat.le_antisymm ((hnone _).mpr le_rfl) ((hnone _).mp le_rfl)

theorem layoutOf_locatedAt {index : Nat} {location : DartAbiLocation} :
    LocatedAt (layoutOf profile limit parameters result) index location ↔
      index < parameters.length ∧ argumentPlace profile limit parameters index = location := by
  unfold LocatedAt
  rw [layoutOf_getElem?]
  constructor
  · rintro ⟨representation, h⟩
    obtain ⟨_, hget, hplace⟩ := map_eq_some_iff.mp h
    exact ⟨(List.getElem?_eq_some_iff.mp hget).1, (List.cons.inj (DartParameterLayout.mk.inj
      hplace).2).1⟩
  · rintro ⟨hlt, rfl⟩
    exact ⟨parameters[index], by rw [List.getElem?_eq_getElem hlt]; rfl⟩

theorem registerFor_some {gp fpu : List Nat} {index : Nat} {location : DartAbiLocation}
    (h : registerFor limit gp fpu parameters index = some location) :
    (∃ representation, parameters[index]? = some representation) ∧
      ((∃ register ∈ gp, location = .gpRegister register) ∨
        ∃ register ∈ fpu, location = .fpuRegister register) := by
  unfold registerFor at h
  split at h
  on_goal 2 => cases h
  split at h
  on_goal 2 => cases h
  next representation hget =>
    refine ⟨⟨representation, hget⟩, ?_⟩
    split at h
    · obtain ⟨register, hregister, rfl⟩ := map_eq_some_iff.mp h
      exact Or.inl ⟨register, List.mem_of_getElem? hregister, rfl⟩
    · split at h
      · obtain ⟨register, hregister, rfl⟩ := map_eq_some_iff.mp h
        exact Or.inr ⟨register, List.mem_of_getElem? hregister, rfl⟩
      · cases h

theorem registerFor_ne_stack {gp fpu : List Nat} {index : Nat} {location : DartAbiLocation}
    (h : registerFor limit gp fpu parameters index = some location) (offset : Int) :
    location ≠ .entryStack offset := by
  rcases (registerFor_some h).2 with ⟨_, _, rfl⟩ | ⟨_, _, rfl⟩ <;> exact nofun

theorem argumentPlace_register {index : Nat} {location : DartAbiLocation}
    (h : registerFor limit profile.gpArgumentRegisters profile.fpuArgumentRegisters parameters
      index = some location) : argumentPlace profile limit parameters index = location := by
  rw [argumentPlace, h, getD_some]

/-- The registers that the loop assigned. -/
def assigned (profile : DartCallingConventionProfile) (limit : Nat)
    (parameters : List DartAbiRepresentation) : List (Option DartAbiLocation) :=
  assignRegisters limit profile.gpArgumentRegisters profile.fpuArgumentRegisters parameters

/-- A parameter that is on the stack, and its word. -/
theorem argumentPlace_stack {index : Nat} {offset : Int} (hlt : index < parameters.length)
    (h : argumentPlace profile limit parameters index = .entryStack offset) :
    (assigned profile limit parameters)[index]? = some none ∧
      offset = stackWordsAfter (assigned profile limit parameters) index * profile.wordSize := by
  rw [argumentPlace] at h
  cases hregister : registerFor limit profile.gpArgumentRegisters profile.fpuArgumentRegisters
      parameters index with
  | some location =>
    rw [hregister, getD_some] at h
    exact absurd h (registerFor_ne_stack hregister offset)
  | none =>
    rw [hregister, getD_none, DartAbiLocation.entryStack.injEq] at h
    refine ⟨?_, h.symm⟩
    rw [assigned, assignRegisters_getElem?, List.getElem?_eq_getElem hlt, map_some,
      hregister]

theorem argumentPlace_of_assigned {index : Nat}
    (h : (assigned profile limit parameters)[index]? = some none) :
    index < parameters.length ∧ argumentPlace profile limit parameters index =
      .entryStack (stackWordsAfter (assigned profile limit parameters) index *
        profile.wordSize) := by
  rw [assigned, assignRegisters_getElem?] at h
  obtain ⟨_, hget, hregister⟩ := map_eq_some_iff.mp h
  exact ⟨(List.getElem?_eq_some_iff.mp hget).1, by rw [argumentPlace, hregister]; rfl⟩

theorem argumentPlace_injective (hword : 0 < profile.wordSize)
    (hgp : profile.gpArgumentRegisters.Nodup) (hfpu : profile.fpuArgumentRegisters.Nodup)
    {index other : Nat} (hlt : index < other) (hindex : index < parameters.length)
    (hother : other < parameters.length)
    (h : argumentPlace profile limit parameters index =
      argumentPlace profile limit parameters other) : False := by
  cases hregister : registerFor limit profile.gpArgumentRegisters profile.fpuArgumentRegisters
      parameters index with
  | some location =>
    rw [argumentPlace_register hregister] at h
    cases hregister' : registerFor limit profile.gpArgumentRegisters profile.fpuArgumentRegisters
        parameters other with
    | some location' =>
      rw [argumentPlace_register hregister'] at h
      rw [h] at hregister
      exact registerFor_injective hgp hfpu hlt hregister hregister'
    | none =>
      rw [argumentPlace, hregister', getD_none] at h
      exact registerFor_ne_stack hregister _ h
  | none =>
    have hplace : ∃ offset, argumentPlace profile limit parameters index = .entryStack offset :=
      ⟨_, by rw [argumentPlace, hregister, getD_none]⟩
    obtain ⟨offset, hplace⟩ := hplace
    obtain ⟨-, hoffset⟩ := argumentPlace_stack hindex hplace
    obtain ⟨hslot, hoffset'⟩ := argumentPlace_stack hother (h ▸ hplace)
    have hanti := stackWordsAfter_anti hlt hslot
    rw [hoffset] at hoffset'
    have heq := Int.eq_of_mul_eq_mul_right (by omega) hoffset'
    omega

/-- A layout puts every parameter at a place of its own. -/
theorem layoutOf_places (hword : 0 < profile.wordSize) (hgp : profile.gpArgumentRegisters.Nodup)
    (hfpu : profile.fpuArgumentRegisters.Nodup) :
    ParametersPlaced profile limit parameters (layoutOf profile limit parameters result) where
  length := layoutOf_length
  one index representation hget := by
    rw [layoutOf_getElem?, hget]
    exact ⟨_, rfl⟩
  distinct index other location hindex hother := by
    obtain ⟨hbound, hplace⟩ := layoutOf_locatedAt.mp hindex
    obtain ⟨hbound', hplace'⟩ := layoutOf_locatedAt.mp hother
    rw [← hplace'] at hplace
    rcases Nat.lt_trichotomy index other with hlt | heq | hlt
    · exact (argumentPlace_injective hword hgp hfpu hlt hbound hbound' hplace).elim
    · exact heq
    · exact (argumentPlace_injective hword hgp hfpu hlt hbound' hbound hplace.symm).elim
  register index location hregister := by
    obtain ⟨⟨_, hget⟩, -⟩ := registerFor_some hregister
    exact layoutOf_locatedAt.mpr
      ⟨(List.getElem?_eq_some_iff.mp hget).1, argumentPlace_register hregister⟩
  stack index hlt hregister := by
    have hslot : (assigned profile limit parameters)[index]? = some none := by
      rw [assigned, assignRegisters_getElem?, List.getElem?_eq_getElem hlt, map_some,
        hregister]
    exact ⟨_, stackWordsAfter_lt hslot,
      layoutOf_locatedAt.mpr (argumentPlace_of_assigned hslot)⟩
  packed word hlt := by
    obtain ⟨index, hslot, rfl⟩ := exists_stackWordsAfter hlt
    exact ⟨index, layoutOf_locatedAt.mpr (argumentPlace_of_assigned hslot)⟩
  descending index other hlt offset offset' hindex hother := by
    obtain ⟨hindex, hplace⟩ := layoutOf_locatedAt.mp hindex
    obtain ⟨hother, hplace'⟩ := layoutOf_locatedAt.mp hother
    obtain ⟨-, rfl⟩ := argumentPlace_stack hindex hplace
    obtain ⟨hslot, rfl⟩ := argumentPlace_stack hother hplace'
    have hanti := stackWordsAfter_anti hlt hslot
    exact Int.mul_lt_mul_of_pos_right (by omega) (by omega)

/-- The register limit of a function. -/
def registerLimit (abi : DartFunctionAbiResolution) : Nat :=
  if abi.mustUseStackCallingConvention then 0 else abi.maxParametersInRegisters

theorem computeDartCallLayout_eq_layoutOf {abi : DartFunctionAbiResolution} {closureCall : Bool}
    (h : (computeDartCallLayout abi profile closureCall).1 = .ok) :
    (computeDartCallLayout abi profile closureCall).2 = layoutOf profile (registerLimit abi)
      (abi.parameters.map DartAbiResolvedSlot.representation) abi.result.representation := by
  unfold computeDartCallLayout at h ⊢
  split at h
  · cases h
  split at h
  · cases h
  split at h
  · cases h
  split at h
  · cases h
  split at h
  · cases h
  simp only [*, if_false]
  rfl

/-- The ARM64 layout puts every parameter at a place of its own. -/
theorem arm64_places {abi : DartFunctionAbiResolution} {closureCall : Bool}
    (h : (computeDartCallLayout abi arm64AotCallingConventionProfile closureCall).1 = .ok) :
    ParametersPlaced arm64AotCallingConventionProfile (registerLimit abi)
      (abi.parameters.map DartAbiResolvedSlot.representation)
      (computeDartCallLayout abi arm64AotCallingConventionProfile closureCall).2 := by
  rw [computeDartCallLayout_eq_layoutOf h]
  exact layoutOf_places (by decide) (by decide) (by decide)

end Layout

end DartPlant
