import DartPlant.Interceptor.ClosureArguments
import Mathlib.Data.Fintype.EquivFin

/-! # The mapping of closure arguments

Each argument that a closure call supplies is the argument of one formal exactly when the positions
of the named ones are beyond the positional ones and all different: `closure_mapping_bijective_iff`.
The mapping itself compares a named position with the number of arguments only.
-/

namespace DartPlant
open ByteMemory FallibleLoop

/-! ## The loops -/

section Loops
variable {formals : List DartClosureFormalLayout} {count userArgumentCount namedCount : Nat}
  {entry : Nat → Option (Nat × String)} {placed : ActualForFormal}

theorem toInt32_of_lt {value : Nat} (h : value < 2147483648) : toInt32 value = value := by
  unfold toInt32
  rw [Int.bmod_def]
  split <;> omega

theorem placePositional_eq {limit positional : Nat}
    (h : placePositional limit positional = .ok placed) :
    placed = fun formal => if formal < positional then toInt32 formal else -1 := by
  refine loop_induct
    (fun turn placed => placed = fun formal => if formal < turn then toInt32 formal else -1)
    ?_ ?_ h
  · funext formal
    rw [if_neg (Nat.not_lt_zero formal)]
  · intro turn before after _ hbefore hturn
    split at hturn
    · cases hturn
    rw [← Except.ok.inj hturn, hbefore]
    funext formal
    by_cases heq : formal = turn
    · subst heq
      rw [Function.update_self, if_pos (Nat.lt_succ_self formal)]
    · rw [Function.update_of_ne heq]
      have : formal < turn + 1 ↔ formal < turn := by omega
      simp only [this]

/-- The named entry is about this formal, and this argument. -/
def Takes (formals : List DartClosureFormalLayout) (entry : Nat → Option (Nat × String))
    (named formal actual : Nat) : Prop :=
  ∃ name, entry named = some (actual + 1, name) ∧ namedFormal formals name = some formal

theorem Takes.unique {named formal formal' actual actual' : Nat}
    (h : Takes formals entry named formal actual) (h' : Takes formals entry named formal' actual') :
    formal = formal' ∧ actual = actual' := by
  obtain ⟨name, hentry, hformal⟩ := h
  obtain ⟨name', hentry', hformal'⟩ := h'
  rw [hentry, Option.some.injEq, Prod.mk.injEq] at hentry'
  obtain ⟨hposition, rfl⟩ := hentry'
  rw [hformal] at hformal'
  exact ⟨Option.some.inj hformal', by omega⟩

/-- What so many turns of the loop over the named arguments have made of the positional ones. -/
structure NamedPlaced (formals : List DartClosureFormalLayout) (userArgumentCount : Nat)
    (entry : Nat → Option (Nat × String)) (start placed : ActualForFormal) (turns : Nat) :
    Prop where
  kept : ∀ formal, 0 ≤ start formal → placed formal = start formal
  taken : ∀ named < turns, ∃ formal actual, Takes formals entry named formal actual ∧
    actual < userArgumentCount ∧ start formal < 0 ∧ placed formal = actual
  only : ∀ formal, 0 ≤ placed formal → 0 ≤ start formal ∨
    ∃ named < turns, ∃ actual, Takes formals entry named formal actual
  apart : ∀ named < turns, ∀ other < turns, ∀ formal actual actual',
    Takes formals entry named formal actual → Takes formals entry other formal actual' →
    named = other

/-- The entries hold positions that a 32-bit Smi can hold. -/
def SmallPositions (entry : Nat → Option (Nat × String)) : Prop :=
  ∀ named position name, entry named = some (position, name) → position < 2147483648

theorem placeNamedEntry_ok {named : Nat} {after : ActualForFormal} (hsmall : SmallPositions entry)
    (h : placeNamedEntry formals count userArgumentCount entry placed named = .ok after) :
    ∃ formal actual, Takes formals entry named formal actual ∧ actual < userArgumentCount ∧
      placed formal < 0 ∧ after = Function.update placed formal (actual : Int) := by
  unfold placeNamedEntry at h
  split at h
  · cases h
  next position name hentry =>
    split at h
    · cases h
    next hposition =>
      split at h
      · cases h
      next formal hformal =>
        dsimp only at h
        split at h
        · cases h
        next hfree =>
          obtain ⟨hzero, -⟩ := not_or.mp hposition
          obtain ⟨hplaced, hbound⟩ := not_or.mp hfree
          have hposition : position - 1 + 1 = position := Nat.succ_pred_eq_of_ne_zero hzero
          refine ⟨formal, position - 1, ⟨name, ?_, hformal⟩, by omega, by omega, ?_⟩
          · rw [hposition]
            exact hentry
          · have hvalue := hsmall named position name hentry
            rw [← Except.ok.inj h, toInt32_of_lt (by omega)]

theorem NamedPlaced.step {start after : ActualForFormal} {turns : Nat}
    (h : NamedPlaced formals userArgumentCount entry start placed turns)
    (hsmall : SmallPositions entry)
    (hturn : placeNamedEntry formals count userArgumentCount entry placed turns = .ok after) :
    NamedPlaced formals userArgumentCount entry start after (turns + 1) := by
  obtain ⟨formal, actual, htakes, hbound, hfree, rfl⟩ := placeNamedEntry_ok hsmall hturn
  -- The formal was free, so no earlier entry is about it.
  have hfresh : ∀ named < turns, ∀ other, ¬ Takes formals entry named formal other := by
    intro named hnamed other hother
    obtain ⟨formal', actual', htakes', -, -, hplaced⟩ := h.taken named hnamed
    obtain ⟨rfl, rfl⟩ := hother.unique htakes'
    omega
  refine ⟨fun other hother => ?_, fun named hnamed => ?_, fun other hother => ?_, ?_⟩
  · have hne : other ≠ formal := by
      rintro rfl
      rw [← h.kept other hother] at hother
      omega
    rw [Function.update_of_ne hne]
    exact h.kept other hother
  · rcases Nat.lt_succ_iff_lt_or_eq.mp hnamed with hearlier | rfl
    · obtain ⟨other, actual', htakes', hbound', hstart, hplaced⟩ := h.taken named hearlier
      have hne : other ≠ formal := by
        rintro rfl
        exact hfresh named hearlier actual' htakes'
      exact ⟨other, actual', htakes', hbound', hstart, by rw [Function.update_of_ne hne, hplaced]⟩
    · refine ⟨formal, actual, htakes, hbound, ?_, Function.update_self ..⟩
      by_contra hstart
      have := h.kept formal (not_lt.mp hstart)
      omega
  · by_cases heq : other = formal
    · subst heq
      exact Or.inr ⟨turns, Nat.lt_succ_self turns, actual, htakes⟩
    · rw [Function.update_of_ne heq] at hother
      refine (h.only other hother).imp_right ?_
      rintro ⟨named, hnamed, htaken⟩
      exact ⟨named, Nat.lt_succ_of_lt hnamed, htaken⟩
  · intro named hnamed other hother shared actual' actual'' htakes' htakes''
    rcases Nat.lt_succ_iff_lt_or_eq.mp hnamed with hearlier | rfl <;>
      rcases Nat.lt_succ_iff_lt_or_eq.mp hother with hearlier' | rfl
    · exact h.apart named hearlier other hearlier' shared actual' actual'' htakes' htakes''
    · obtain ⟨rfl, -⟩ := htakes''.unique htakes
      exact absurd htakes' (hfresh named hearlier actual')
    · obtain ⟨rfl, -⟩ := htakes'.unique htakes
      exact absurd htakes'' (hfresh other hearlier' actual'')
    · rfl

theorem placeNamed_placed {start : ActualForFormal} (hsmall : SmallPositions entry)
    (h : placeNamed formals count userArgumentCount entry namedCount start = .ok placed) :
    NamedPlaced formals userArgumentCount entry start placed namedCount := by
  unfold placeNamed at h
  refine loop_induct
    (fun turn placed => NamedPlaced formals userArgumentCount entry start placed turn) ?_ ?_ h
  · exact ⟨fun _ _ => rfl, nofun, fun _ => Or.inl, nofun⟩
  · intro turn before after _ hbefore hturn
    exact hbefore.step hsmall hturn

theorem mapFormals_getElem? {index : Nat} {before after : List DartParameterLayout}
    (h : mapFormals userArgumentCount placed index before = .ok after) (offset : Nat) :
    after[offset]? = before[offset]?.map fun parameter =>
      if placed (index + offset) < 0 then DartParameterLayout.mk parameter.representation []
      else DartParameterLayout.mk parameter.representation
        [.entryStack (((userArgumentCount : Int) - 1 - placed (index + offset)) % 2 ^ 32 * 8)] := by
  induction before generalizing index after offset with
  | nil =>
    obtain rfl := Except.ok.inj h
    rfl
  | cons parameter rest ih =>
    rw [mapFormals] at h
    split at h
    next hplaced =>
      obtain ⟨tail, htail, rfl⟩ := of_map_ok h
      cases offset with
      | zero => simp [hplaced]
      | succ offset =>
        rw [List.getElem?_cons_succ, List.getElem?_cons_succ, ih htail offset]
        simp only [Nat.add_assoc, Nat.add_comm 1]
    next hplaced =>
      dsimp only at h
      split at h
      · cases h
      obtain ⟨tail, htail, rfl⟩ := of_map_ok h
      cases offset with
      | zero => simp [hplaced]
      | succ offset =>
        rw [List.getElem?_cons_succ, List.getElem?_cons_succ, ih htail offset]
        simp only [Nat.add_assoc, Nat.add_comm 1]

/-- The offset of every slot is one that the location can hold. -/
theorem mapFormals_bound {index : Nat} {before after : List DartParameterLayout}
    (h : mapFormals userArgumentCount placed index before = .ok after) {offset : Nat}
    (hlt : offset < before.length) (hplaced : 0 ≤ placed (index + offset)) :
    ((userArgumentCount : Int) - 1 - placed (index + offset)) % 2 ^ 32 * 8 ≤ 2147483647 := by
  induction before generalizing index after offset with
  | nil => cases hlt
  | cons parameter rest ih =>
    rw [mapFormals] at h
    split at h
    next hfree =>
      obtain ⟨tail, htail, rfl⟩ := of_map_ok h
      cases offset with
      | zero => exact absurd hfree (not_lt.mpr hplaced)
      | succ offset =>
        have hindex : index + (offset + 1) = index + 1 + offset := by omega
        rw [hindex] at hplaced ⊢
        exact ih htail (Nat.lt_of_succ_lt_succ hlt) hplaced
    next =>
      dsimp only at h
      split at h
      · cases h
      next hbound =>
        obtain ⟨tail, htail, rfl⟩ := of_map_ok h
        cases offset with
        | zero => exact not_lt.mp hbound
        | succ offset =>
          have hindex : index + (offset + 1) = index + 1 + offset := by omega
          rw [hindex] at hplaced ⊢
          exact ih htail (Nat.lt_of_succ_lt_succ hlt) hplaced

theorem checkFormals_required {hasNamed : Bool} {index : Nat}
    (h : checkFormals hasNamed placed index formals = .ok ()) {offset : Nat}
    {formal : DartClosureFormalLayout} (hget : formals[offset]? = some formal)
    (hplaced : placed (index + offset) < 0) : formal.isRequired = false := by
  induction formals generalizing index offset with
  | nil => cases hget
  | cons first rest ih =>
    rw [checkFormals] at h
    split at h
    · cases h
    next hrequired =>
      split at h
      · cases h
      cases offset with
      | zero =>
        obtain rfl := Option.some.inj hget
        exact Bool.eq_false_iff.mpr fun htrue => hrequired ⟨htrue, hplaced⟩
      | succ offset =>
        rw [← Nat.add_assoc, Nat.add_right_comm] at hplaced
        exact ih h hget hplaced

end Loops

/-! ## What is read of a descriptor -/

section Reading
variable {invocation : Invocation} {state : InvocationState} {raw value : Nat}
  {tags : RawObjectLayout}

theorem decodePositiveCompressedSmi_lt (h : decodePositiveCompressedSmi raw tags = some value) :
    value < 2147483648 := by
  unfold decodePositiveCompressedSmi at h
  split at h
  · cases h
  dsimp only at h
  split at h
  · cases h
  next hnonneg =>
    have hbound : toInt32 raw < 2147483648 := by
      unfold toInt32
      rw [Int.bmod_def]
      split <;> omega
    have hshift : toInt32 raw >>> tags.smiTagShift < 2147483648 := by
      rw [Int.shiftRight_eq_div_pow] at hnonneg ⊢
      have hpow : (0 : Int) < ((2 ^ tags.smiTagShift : Nat) : Int) :=
        Int.natCast_pos.mpr (Nat.two_pow_pos _)
      by_cases hsign : 0 ≤ toInt32 raw
      · exact lt_of_le_of_lt (Int.ediv_le_self _ hsign) hbound
      · have := Int.ediv_neg_of_neg_of_pos (not_le.mp hsign) hpow
        omega
    rw [← Option.some.inj h]
    omega

theorem readPositiveCompressedSmi_le {address : Address}
    (h : readPositiveCompressedSmi invocation state address tags = some value) :
    value ≤ 4294967295 := by
  unfold readPositiveCompressedSmi at h
  split at h
  · cases h
  split at h
  · obtain ⟨raw, -, hdecode⟩ := Option.bind_eq_some_iff.mp h
    have := decodePositiveCompressedSmi_lt hdecode
    omega
  split at h
  · obtain ⟨raw, -, hdecode⟩ := Option.bind_eq_some_iff.mp h
    split at hdecode
    · cases hdecode
    dsimp only at hdecode
    split at hdecode
    · cases hdecode
    next hrange =>
      rw [← Option.some.inj hdecode]
      omega
  · cases h

theorem readDescriptorNamedEntry_small :
    SmallPositions (readDescriptorNamedEntry invocation state) := by
  intro named position name h
  unfold readDescriptorNamedEntry at h
  simp only [Option.bind_eq_bind, Option.bind_eq_some_iff] at h
  obtain ⟨_, -, _, -, _, -, _, -, _, -, _, -, _, -, _, -, _, -, _, -, _, -, decoded, hdecoded, _, -,
    _, -, _, -, h⟩ := h
  obtain ⟨rfl, -⟩ := Prod.mk.inj (Option.some.inj h)
  exact decodePositiveCompressedSmi_lt hdecoded

/-- What a descriptor that is read always satisfies. -/
theorem getArgumentsDescriptor_counts {info : ArgumentsDescriptorInfo}
    (h : getArgumentsDescriptor invocation state = .ok info) :
    info.namedCount = info.count - info.positionalCount ∧ info.count ≤ 4294967295 := by
  unfold getArgumentsDescriptor at h
  obtain ⟨⟨layout, call, object⟩, -, h⟩ := of_bind_ok h
  obtain ⟨raw, -, h⟩ := of_bind_ok h
  obtain ⟨-, -, h⟩ := of_bind_ok h
  obtain ⟨address, -, h⟩ := of_bind_ok h
  split at h
  · cases h
  next counters hcounters =>
    obtain ⟨-, -, h⟩ := of_bind_ok h
    obtain rfl := Except.ok.inj h
    unfold descriptorCounters at hcounters
    simp only [Option.bind_eq_bind, Option.bind_eq_some_iff] at hcounters
    obtain ⟨_, -, count, hcount, _, -, _, -, _, -, hinfo⟩ := hcounters
    rw [← Option.some.inj hinfo]
    exact ⟨rfl, readPositiveCompressedSmi_le hcount⟩

end Reading

/-! ## The mapping of a call -/

/-- The formal is at exactly this location. -/
def SlotOf (parameters : List DartParameterLayout) (formal : Nat) (location : DartAbiLocation) :
    Prop :=
  ∃ representation, parameters[formal]? = some (DartParameterLayout.mk representation [location])

/-- The formals that the call supplies take its user arguments one to one; what is omitted is
optional.  The receiver's slot is above the user arguments, and the type arguments' above it. -/
structure ClosureBijection (signature : DartClosureSignatureLayout) (count : Nat)
    (parameters : List DartParameterLayout) : Prop where
  length : parameters.length = signature.formals.length
  distinct : ∀ formal other location, SlotOf parameters formal location →
    SlotOf parameters other location → formal = other
  onto : ∀ slot < count - 1, ∃ formal,
    SlotOf parameters formal (.entryStack (((count : Int) - 2 - slot) * 8))
  omitted : ∀ (index : Nat) parameter formal, parameters[index]? = some parameter →
    signature.formals[index]? = some formal → (∃ location, SlotOf parameters index location) ∨
      parameter.locations = [] ∧ formal.isRequired = false
  below : ∀ formal location, SlotOf parameters formal location →
    ∃ offset : Int, location = .entryStack offset ∧ offset < 8 * ((count : Int) - 1)

/-- The named arguments come after the positional ones, each at a position of its own. -/
structure NamedApart (info : ArgumentsDescriptorInfo) (entry : Nat → Option (Nat × String)) :
    Prop where
  beyond : ∀ named < info.namedCount, ∀ position name, entry named = some (position, name) →
    info.positionalCount ≤ position
  different : ∀ named < info.namedCount, ∀ other < info.namedCount, ∀ position name name',
    entry named = some (position, name) → entry other = some (position, name') → named = other

/-- What a successful mapping has gone through. -/
structure MappingRun (signature : DartClosureSignatureLayout) (info : ArgumentsDescriptorInfo)
    (entry : Nat → Option (Nat × String)) (placed : ActualForFormal)
    (before after : List DartParameterLayout) : Prop where
  counts : info.namedCount = info.count - info.positionalCount ∧ info.count ≤ 4294967295
  shape : 0 < info.positionalCount ∧ info.positionalCount ≤ info.count ∧
    info.count - 1 ≤ signature.formals.length
  formals : before.length = signature.formals.length
  named : NamedPlaced signature.formals (info.count - 1) entry
    (fun formal => if formal < info.positionalCount - 1 then toInt32 formal else -1) placed
    info.namedCount
  required : ∀ (index : Nat) formal, signature.formals[index]? = some formal →
    placed index < 0 → formal.isRequired = false
  mapped : mapFormals (info.count - 1) placed 0 before = .ok after

section Mapping
variable {invocation : Invocation} {state : InvocationState} {layout : DartCallLayout}
  {signature : DartClosureSignatureLayout} {info : ArgumentsDescriptorInfo}
  {entry : Nat → Option (Nat × String)} {placed : ActualForFormal}
  {before after : List DartParameterLayout}

theorem mapClosureArguments_run {location : DartAbiLocation}
    (hinfo : getArgumentsDescriptor invocation state = .ok info)
    (h : mapClosureArguments invocation state layout signature = .ok (after, location)) :
    ∃ placed, MappingRun signature info (readDescriptorNamedEntry invocation state) placed
      layout.parameters after := by
  unfold mapClosureArguments at h
  obtain ⟨⟨⟩, hshape, h⟩ := of_bind_ok h
  obtain ⟨info', hinfo', h⟩ := of_bind_ok h
  have hread := of_mapError_ok hinfo'
  rw [hinfo] at hread
  obtain rfl := Except.ok.inj hread
  obtain ⟨⟨⟩, hdescriptor, h⟩ := of_bind_ok h
  obtain ⟨placed, hplaced, h⟩ := of_bind_ok h
  obtain ⟨⟨typeLocation, typeArguments⟩, -, h⟩ := of_bind_ok h
  have hmapped : mapFormals (info.count - 1) placed 0 layout.parameters = .ok after := by
    dsimp only at h
    split at h
    · obtain ⟨-, -, h⟩ := of_bind_ok h
      obtain ⟨parameters, hparameters, h⟩ := of_bind_ok h
      rw [hparameters, (Prod.mk.inj (Except.ok.inj h)).1]
    · obtain ⟨parameters, hparameters, h⟩ := of_bind_ok h
      rw [hparameters, (Prod.mk.inj (Except.ok.inj h)).1]
  unfold placeArguments at hplaced
  obtain ⟨positional, hpositional, hplaced⟩ := of_bind_ok hplaced
  obtain ⟨placed', hnamed, hplaced⟩ := of_bind_ok hplaced
  obtain ⟨⟨⟩, hcheck, hplaced⟩ := of_bind_ok hplaced
  obtain rfl := Except.ok.inj hplaced
  refine ⟨placed', getArgumentsDescriptor_counts hinfo, ?_, ?_, ?_, ?_, hmapped⟩
  · unfold checkDescriptorShape at hdescriptor
    dsimp only at hdescriptor
    split at hdescriptor
    · cases hdescriptor
    next hcounts =>
      split at hdescriptor
      · cases hdescriptor
      next hmatch =>
        push Not at hcounts hmatch
        exact ⟨Nat.pos_of_ne_zero hcounts.2.2.1, hcounts.2.2.2, hmatch.1⟩
  · unfold checkClosureShape at hshape
    split at hshape
    · cases hshape
    next hconsistent =>
      push Not at hconsistent
      exact hconsistent.2.2.2.1.symm
  · rw [placePositional_eq hpositional] at hnamed
    exact placeNamed_placed readDescriptorNamedEntry_small hnamed
  · intro index formal hget hnone
    refine checkFormals_required hcheck hget ?_
    rwa [Nat.zero_add]

section
variable (h : MappingRun signature info entry placed before after)
include h

/-- With a positional argument, the user arguments fit the offsets of their slots. -/
theorem MappingRun.small
    (hpositional : 0 < info.positionalCount - 1) : info.count - 1 < 2147483648 := by
  have hstart : placed 0 = 0 := by
    have hkept := h.named.kept 0 (by rw [if_pos hpositional]; decide)
    rw [hkept, if_pos hpositional]
    rfl
  obtain ⟨-, hcount⟩ := h.counts
  obtain ⟨-, hle, hformals⟩ := h.shape
  have hlength : 0 < before.length := by
    rw [h.formals]
    omega
  have hbound := mapFormals_bound h.mapped hlength (by rw [Nat.add_zero, hstart])
  rw [Nat.add_zero, hstart] at hbound
  omega

theorem MappingRun.positional
    {formal : Nat} (hformal : formal < info.positionalCount - 1) : placed formal = formal := by
  have hsmall := h.small (Nat.zero_lt_of_lt hformal)
  obtain ⟨-, hle, -⟩ := h.shape
  have hvalue : toInt32 formal = formal := toInt32_of_lt (by omega)
  have hkept := h.named.kept formal (by rw [if_pos hformal, hvalue]; exact Int.natCast_nonneg _)
  rw [hkept, if_pos hformal, hvalue]

/-- A formal that is supplied takes a positional argument or that of a named entry. -/
theorem MappingRun.supplied {formal : Nat} (hplaced : 0 ≤ placed formal) :
    (formal < info.positionalCount - 1 ∧ placed formal = formal) ∨
      ∃ named < info.namedCount, ∃ actual, Takes signature.formals entry named formal actual ∧
        actual < info.count - 1 ∧ info.positionalCount - 1 ≤ formal ∧ placed formal = actual := by
  rcases h.named.only formal hplaced with hstart | ⟨named, hnamed, actual, htakes⟩
  · refine Or.inl ?_
    by_cases hformal : formal < info.positionalCount - 1
    · exact ⟨hformal, h.positional hformal⟩
    · rw [if_neg hformal] at hstart
      exact absurd hstart (by decide)
  · obtain ⟨formal', actual', htakes', hbound, hstart, hactual⟩ := h.named.taken named hnamed
    obtain ⟨rfl, rfl⟩ := htakes.unique htakes'
    refine Or.inr ⟨named, hnamed, actual, htakes, hbound, ?_, hactual⟩
    by_contra hformal
    rw [h.named.kept formal] at hactual
    · rw [hactual] at hstart
      omega
    · have hpositional := h.positional (not_le.mp hformal)
      have hsmall := h.small (Nat.zero_lt_of_lt (not_le.mp hformal))
      obtain ⟨-, hle, -⟩ := h.shape
      rw [if_pos (not_le.mp hformal), toInt32_of_lt (by omega)]
      exact Int.natCast_nonneg _

theorem MappingRun.getElem? (formal : Nat) : after[formal]? = before[formal]?.map fun parameter =>
      if placed formal < 0 then DartParameterLayout.mk parameter.representation []
      else DartParameterLayout.mk parameter.representation
        [.entryStack (((info.count - 1 : Nat) - 1 - placed formal) % 2 ^ 32 * 8)] := by
  have hget := mapFormals_getElem? h.mapped formal
  simpa only [Nat.zero_add] using hget

/-- The slot of a supplied formal is that of its argument. -/
theorem MappingRun.slot_iff {formal : Nat} {location : DartAbiLocation} :
    SlotOf after formal location ↔ formal < before.length ∧ ∃ actual : Nat,
      actual < info.count - 1 ∧ placed formal = actual ∧
        location = .entryStack (((info.count : Int) - 2 - actual) * 8) := by
  obtain ⟨-, hcount⟩ := h.counts
  have hoffset : ∀ actual : Nat, actual < info.count - 1 →
      ((info.count - 1 : Nat) - 1 - (actual : Int)) % 2 ^ 32 * 8 =
        ((info.count : Int) - 2 - actual) * 8 := by
    intro actual hactual
    omega
  unfold SlotOf
  rw [h.getElem? formal]
  constructor
  · rintro ⟨representation, hget⟩
    obtain ⟨parameter, hparameter, hlayout⟩ := Option.map_eq_some_iff.mp hget
    split at hlayout
    · cases (DartParameterLayout.mk.inj hlayout).2
    next hplaced =>
      refine ⟨(List.getElem?_eq_some_iff.mp hparameter).1, ?_⟩
      have hlocation := (List.cons.inj (DartParameterLayout.mk.inj hlayout).2).1
      obtain ⟨actual, hactual, hvalue⟩ : ∃ actual : Nat, actual < info.count - 1 ∧
          placed formal = actual := by
        rcases h.supplied (not_lt.mp hplaced) with ⟨hformal, hvalue⟩ | ⟨_, _, actual, _, hbound, _,
          hvalue⟩
        · obtain ⟨-, hle, -⟩ := h.shape
          exact ⟨formal, by omega, hvalue⟩
        · exact ⟨actual, hbound, hvalue⟩
      exact ⟨actual, hactual, hvalue, by rw [← hlocation, hvalue, hoffset actual hactual]⟩
  · rintro ⟨hlt, actual, hactual, hvalue, rfl⟩
    refine ⟨before[formal].representation, ?_⟩
    rw [List.getElem?_eq_getElem hlt, Option.map_some, if_neg (by omega), hvalue,
      hoffset actual hactual]

omit h in
/-- As many different places as there are fill the range. -/
theorem exists_of_injective (first size : Nat) {place : Nat → Nat}
    (hrange : ∀ index < size, first ≤ place index ∧ place index < first + size)
    (hinjective : ∀ index < size, ∀ other < size, place index = place other → index = other)
    {value : Nat} (hfirst : first ≤ value) (hlast : value < first + size) :
    ∃ index < size, place index = value := by
  let shifted : Fin size → Fin size := fun index =>
    ⟨place index - first, by have := hrange index index.isLt; omega⟩
  have hshifted : Function.Injective shifted := by
    intro index other heq
    have hvalue := congrArg Fin.val heq
    have hindex := hrange index index.isLt
    have hother := hrange other other.isLt
    exact Fin.ext (hinjective index index.isLt other other.isLt (by
      simp only [shifted] at hvalue
      omega))
  obtain ⟨index, hindex⟩ := Finite.surjective_of_injective hshifted ⟨value - first, by omega⟩
  refine ⟨index, index.isLt, ?_⟩
  have hvalue := congrArg Fin.val hindex
  have hrange := hrange index index.isLt
  simp only [shifted] at hvalue
  omega

theorem MappingRun.formal_lt {named formal actual : Nat}
    (htakes : Takes signature.formals entry named formal actual) : formal < before.length := by
  obtain ⟨name, -, hformal⟩ := htakes
  rw [h.formals]
  exact (List.findIdx?_eq_some_iff_getElem.mp hformal).1

/-- Named arguments that are apart make the mapping one to one. -/
theorem MappingRun.bijection
    (hapart : NamedApart info entry) : ClosureBijection signature info.count after := by
  obtain ⟨hnamed, -⟩ := h.counts
  obtain ⟨hpositive, hle, hformals⟩ := h.shape
  have hlength : after.length = before.length := by
    have hnone : ∀ index, after.length ≤ index ↔ before.length ≤ index := by
      intro index
      rw [← List.getElem?_eq_none_iff, h.getElem? index, Option.map_eq_none_iff,
        List.getElem?_eq_none_iff]
    exact Nat.le_antisymm ((hnone _).mpr le_rfl) ((hnone _).mp le_rfl)
  have hbeyond : ∀ named < info.namedCount, ∀ formal actual,
      Takes signature.formals entry named formal actual → info.positionalCount - 1 ≤ actual := by
    rintro named hlt formal actual ⟨name, hentry, -⟩
    have := hapart.beyond named hlt (actual + 1) name hentry
    omega
  refine ⟨hlength.trans h.formals, ?_, ?_, ?_, ?_⟩
  · intro formal other location hformal hother
    obtain ⟨-, actual, -, hplaced, hlocation⟩ := h.slot_iff.mp hformal
    obtain ⟨-, actual', -, hplaced', hlocation'⟩ := h.slot_iff.mp hother
    have hsame : actual = actual' := by
      rw [hlocation, DartAbiLocation.entryStack.injEq] at hlocation'
      omega
    subst hsame
    rcases h.supplied (by rw [hplaced]; exact Int.natCast_nonneg _) with
      ⟨hpositional, hvalue⟩ | ⟨named, hlt, taken, htakes, -, -, hvalue⟩ <;>
    rcases h.supplied (by rw [hplaced']; exact Int.natCast_nonneg _) with
      ⟨hpositional', hvalue'⟩ | ⟨named', hlt', taken', htakes', -, -, hvalue'⟩
    · omega
    · have := hbeyond named' hlt' other taken' htakes'
      omega
    · have := hbeyond named hlt formal taken htakes
      omega
    · -- Two entries of one position are one entry, and an entry is about one formal.
      obtain rfl : taken = taken' := by omega
      obtain ⟨name, hentry, hnamedFormal⟩ := htakes
      obtain ⟨name', hentry', hnamedFormal'⟩ := htakes'
      obtain rfl := hapart.different named hlt named' hlt' (taken + 1) name name' hentry hentry'
      exact (Takes.unique ⟨name, hentry, hnamedFormal⟩ ⟨name', hentry', hnamedFormal'⟩).1
  · intro slot hslot
    by_cases hpositional : slot < info.positionalCount - 1
    · exact ⟨slot, h.slot_iff.mpr ⟨by rw [h.formals]; omega, slot, hslot,
        h.positional hpositional, rfl⟩⟩
    · have hchoose : ∀ named, ∃ actual, named < info.namedCount → ∃ formal,
          Takes signature.formals entry named formal actual ∧ actual < info.count - 1 ∧
            placed formal = actual := by
        intro named
        by_cases hlt : named < info.namedCount
        · obtain ⟨formal, actual, htakes, hbound, -, hvalue⟩ := h.named.taken named hlt
          exact ⟨actual, fun _ => ⟨formal, htakes, hbound, hvalue⟩⟩
        · exact ⟨0, fun hlt' => absurd hlt' hlt⟩
      obtain ⟨place, hplace⟩ := Classical.skolem.mp hchoose
      obtain ⟨named, hlt, rfl⟩ := exists_of_injective (info.positionalCount - 1) info.namedCount
        (fun named hlt => by
          obtain ⟨formal, htakes, hbound, -⟩ := hplace named hlt
          exact ⟨hbeyond named hlt formal _ htakes, by omega⟩)
        (fun named hlt other hlt' heq => by
          obtain ⟨formal, ⟨name, hentry, -⟩, -⟩ := hplace named hlt
          obtain ⟨formal', ⟨name', hentry', -⟩, -⟩ := hplace other hlt'
          rw [heq] at hentry
          exact hapart.different named hlt other hlt' _ name name' hentry hentry')
        (not_lt.mp hpositional) (by omega)
      obtain ⟨formal, htakes, hbound, hvalue⟩ := hplace named hlt
      exact ⟨formal, h.slot_iff.mpr ⟨h.formal_lt htakes, place named, hbound, hvalue, rfl⟩⟩
  · intro index parameter formal hparameter hformal
    have hget := h.getElem? index
    rw [hparameter] at hget
    obtain ⟨original, horiginal, hlayout⟩ := Option.map_eq_some_iff.mp hget.symm
    split at hlayout
    next hfree =>
      exact Or.inr ⟨by rw [← hlayout], h.required index formal hformal hfree⟩
    · exact Or.inl ⟨_, _, by rw [hparameter, ← hlayout]⟩
  · intro formal location hslot
    obtain ⟨-, actual, hactual, -, rfl⟩ := h.slot_iff.mp hslot
    exact ⟨_, rfl, by omega⟩

/-- A mapping that is one to one had its named arguments apart. -/
theorem MappingRun.apart
    (hbijection : ClosureBijection signature info.count after) : NamedApart info entry := by
  obtain ⟨hpositive, hle, hformals⟩ := h.shape
  have hslot : ∀ named < info.namedCount, ∀ position name, entry named = some (position, name) →
      ∃ formal actual, position = actual + 1 ∧ Takes signature.formals entry named formal actual ∧
        info.positionalCount - 1 ≤ formal ∧
          SlotOf after formal (.entryStack (((info.count : Int) - 2 - actual) * 8)) := by
    intro named hlt position name hentry
    obtain ⟨formal, actual, htakes, hbound, -, hvalue⟩ := h.named.taken named hlt
    obtain ⟨name', hentry', hnamedFormal⟩ := htakes
    rw [hentry, Option.some.injEq, Prod.mk.injEq] at hentry'
    refine ⟨formal, actual, hentry'.1, ⟨name, ?_, ?_⟩, ?_, ?_⟩
    · rw [hentry, hentry'.1]
    · rw [hentry'.2, hnamedFormal]
    · rcases h.supplied (by rw [hvalue]; exact Int.natCast_nonneg _) with
        ⟨hpositional, -⟩ | ⟨_, _, _, _, _, hformal, _⟩
      · obtain ⟨formal', actual', htakes', -, hstart, -⟩ := h.named.taken named hlt
        have htakes : Takes signature.formals entry named formal actual :=
          ⟨name, by rw [hentry, hentry'.1], by rw [hentry'.2, hnamedFormal]⟩
        rw [← (htakes.unique htakes').1, if_pos hpositional] at hstart
        have hsmall := h.small (Nat.zero_lt_of_lt hpositional)
        rw [toInt32_of_lt (by omega)] at hstart
        omega
      · exact hformal
    · exact h.slot_iff.mpr ⟨h.formal_lt ⟨name', by rw [hentry, hentry'.1, hentry'.2],
        hnamedFormal⟩, actual, hbound, hvalue, rfl⟩
  constructor
  · intro named hlt position name hentry
    obtain ⟨formal, actual, rfl, -, hformal, hslot⟩ := hslot named hlt position name hentry
    by_contra hbelow
    -- The positional argument at this position has a formal of its own.
    have hpositional : actual < info.positionalCount - 1 := by omega
    have hother : SlotOf after actual
        (.entryStack (((info.count : Int) - 2 - actual) * 8)) :=
      h.slot_iff.mpr ⟨by rw [h.formals]; omega, actual, by omega, h.positional hpositional, rfl⟩
    have := hbijection.distinct formal actual _ hslot hother
    omega
  · intro named hlt other hlt' position name name' hentry hentry'
    obtain ⟨formal, actual, hposition, htakes, -, hslot₁⟩ := hslot named hlt position name hentry
    obtain ⟨formal', actual', hposition', htakes', -, hslot₂⟩ :=
      hslot other hlt' position name' hentry'
    obtain rfl : actual = actual' := by omega
    obtain rfl := hbijection.distinct formal formal' _ hslot₁ hslot₂
    exact h.named.apart named hlt other hlt' formal actual actual htakes htakes'

end

/-- The mapping of a closure call that succeeds is one to one exactly when the named arguments are
apart from the positional ones and from each other. -/
theorem closure_mapping_bijective_iff (hlayout : invocation.callLayout = some layout)
    (hsignature : layout.closureSignature = some signature)
    (hfirst : state.closureMapping.attempted = false)
    (hinfo : getArgumentsDescriptor invocation state = .ok info)
    (hok : (ensureClosureArgumentMapping invocation state).1 = .ok ()) :
    ClosureBijection signature info.count
        (ensureClosureArgumentMapping invocation state).2.closureMapping.parameters ↔
      NamedApart info (readDescriptorNamedEntry invocation state) := by
  unfold ensureClosureArgumentMapping at hok ⊢
  simp only [hlayout, hsignature, Option.bind_some, Option.map_some, hfirst, Bool.false_eq_true,
    if_false] at hok ⊢
  cases hmap : mapClosureArguments invocation state layout signature with
  | error message =>
    rw [hmap] at hok
    cases hok
  | ok mapped =>
    obtain ⟨parameters, location⟩ := mapped
    obtain ⟨placed, hrun⟩ := mapClosureArguments_run hinfo hmap
    exact ⟨hrun.apart, hrun.bijection⟩

end Mapping

/-! ## Two descriptors of one call -/

/-- `(a, {x, y})`. -/
def exampleSignature : DartClosureSignatureLayout where
  implicitParameterCount := 1
  fixedParameterCount := 2
  optionalParameterCount := 2
  typeParameterCount := 0
  parentTypeArgumentCount := 0
  hasNamedOptionalParameters := true
  formals := [⟨1, .requiredPositional, true, "a"⟩, ⟨2, .named, false, "x"⟩, ⟨3, .named, false, "y"⟩]

def exampleCallLayout : DartCallLayout where
  vmCallProfile := some ⟨1, 4, ""⟩
  vmObjectProfile := some ⟨1, 4, ""⟩
  parameters := [⟨.tagged, []⟩, ⟨.tagged, []⟩, ⟨.tagged, []⟩]
  result := ⟨.tagged, [.gpRegister 0]⟩
  dartSpRegister := 15
  hasClosureReceiver := true
  closureReceiverLocation := .gpRegister 0
  hasArgumentsDescriptor := true
  argumentsDescriptorLocation := .gpRegister 4
  closureSignature := some exampleSignature

def exampleInvocation : Invocation where
  callLayout := some exampleCallLayout
  profile := some ⟨false, false, false, false, 0, fun _ => .gpRegister 0, .gpRegister 0⟩
  phase := .enter
  liveVmHeapBase := 0x100000000
  hasFunction := true
  readable := fun _ _ => true
  callObjectLayout := fun _ =>
    ⟨⟨1, 0, 1, 1, 12, 20, 4⟩, ⟨8, 12, 16, 20, 24, 8, 0, 4⟩, 5, 6, 26, 8⟩
  dartString := fun _ _ tagged => if tagged = 0x100000005 then some "x" else some "y"

/-- A call of four arguments, two of them positional, whose descriptor puts `x` at this position and
`y` at the last. -/
def exampleState (position : Nat) : InvocationState where
  context := ⟨fun index => if index = 4 then 0x1001 else 0x8000, fun _ => 0⟩
  memory := fun address => match address.toNat with
    | 0x1001 => 0x50
    | 0x100c | 0x1010 => 8
    | 0x1014 => 4
    | 0x1018 => 5
    | 0x101c => BitVec.ofNat 8 (2 * position)
    | 0x1020 => 9
    | 0x1024 => 6
    | _ => 0
  roots := []
  skipOriginal := false
  callOriginal := true
  closureMapping := {}

theorem closure_mapping_bijective_named :
    ClosureBijection exampleSignature 4 (ensureClosureArgumentMapping exampleInvocation
        (exampleState 2)).2.closureMapping.parameters ↔
      NamedApart ⟨0x1001, 0, 4, 4, 2, 2⟩
        (readDescriptorNamedEntry exampleInvocation (exampleState 2)) := by
  have hinfo : getArgumentsDescriptor exampleInvocation (exampleState 2) =
      .ok ⟨0x1001, 0, 4, 4, 2, 2⟩ := by decide +kernel
  have hok : (ensureClosureArgumentMapping exampleInvocation (exampleState 2)).1 = .ok () := by
    decide +kernel
  exact closure_mapping_bijective_iff rfl rfl rfl hinfo hok

/-- A named argument at a positional one's place is taken for the same argument. -/
theorem named_over_positional_accepted :
    (ensureClosureArgumentMapping exampleInvocation (exampleState 1)).1 = .ok () ∧
      ¬ ClosureBijection exampleSignature 4
        (ensureClosureArgumentMapping exampleInvocation
          (exampleState 1)).2.closureMapping.parameters := by
  have hparameters : (ensureClosureArgumentMapping exampleInvocation
      (exampleState 1)).2.closureMapping.parameters =
      [⟨.tagged, [.entryStack 16]⟩, ⟨.tagged, [.entryStack 16]⟩, ⟨.tagged, [.entryStack 0]⟩] := by
    decide +kernel
  refine ⟨by decide +kernel, fun h => ?_⟩
  rw [hparameters] at h
  have := h.distinct 0 1 (.entryStack 16) ⟨.tagged, rfl⟩ ⟨.tagged, rfl⟩
  cases this

end DartPlant
