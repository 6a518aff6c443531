import DartPlant.Lib.PartialMaps
import DartPlant.Lib.Runs
import Mathlib.Data.List.Nodup

/-! # The stubs of the ShadowHook host

The host keeps under every target the stub that ShadowHook has given it.  ShadowHook is called
without the lock of the map: `Hook` has its stub before it takes the lock, and `Unhook` drops the lock
between its look-up and `shadowhook_unhook`, and takes it again to erase the entry.  Any other call
can run in between.
-/

namespace DartPlant
open PartialMaps Runs Function List

/-- What `shadowhook_hook_func_addr_2` returns, when it is not null. -/
abbrev HookStub := Nat

/-! ## The host -/

/-- Where a call is that has let go of the lock, or has not had it yet. -/
inductive StubPhase where
  -- `Hook` has its stub, and not the lock.
  | emplacing
  -- `Unhook` has looked its stub up.
  | releasing
  -- `Unhook` has passed it to `shadowhook_unhook`, which has succeeded.
  | erasing
  deriving DecidableEq, Repr

structure StubCall where
  target : Nat
  stub : HookStub
  phase : StubPhase
  deriving DecidableEq, Repr

/-- The host, with its calls under way and the history of the stubs: which ones ShadowHook has
given, which ones it has let go of, and which of them `Hook` and `Unhook` have returned 0 for, the
last one first. -/
structure ShadowHookState where
  stubs : Nat → Option HookStub := fun _ => none
  calls : Nat → Option StubCall := fun _ => none
  given : List (Nat × HookStub) := []
  released : List HookStub := []
  hooked : List (Nat × HookStub) := []
  unhooked : List HookStub := []

open ShadowHookState

/-- The steps of the calls.  Whether the arguments are there, which stub ShadowHook gives and
whether `shadowhook_unhook` succeeds is not the host's. -/
inductive StubAction where
  | hook (call target : Nat) (valid : Bool) (stub : Option HookStub)
  | emplace (call : Nat) (success : Bool)
  | lookup (call target : Nat) (valid : Bool)
  | release (call : Nat) (success : Bool)
  | erase (call : Nat)
  deriving DecidableEq, Repr

namespace ShadowHookState

def setCall (state : ShadowHookState) (call : Nat) (running : Option StubCall) : ShadowHookState :=
  { state with calls := update state.calls call running }

/-- `Hook`, up to where it takes the lock. -/
def hook (state : ShadowHookState) (call target : Nat) (valid : Bool) (stub : Option HookStub) :
    ShadowHookState :=
  if valid then
    match stub with
    | some stub =>
      { state with
        given := (target, stub) :: state.given
        calls := update state.calls call (some ⟨target, stub, .emplacing⟩) }
    | none => state
  else state

/-- The rest of `Hook`.  It does not look at what `shadowhook_unhook` returns. -/
def emplace (state : ShadowHookState) (call : Nat) (success : Bool) : ShadowHookState :=
  match state.calls call with
  | some ⟨target, stub, .emplacing⟩ =>
    match state.stubs target with
    | none =>
      { state with
        stubs := update state.stubs target (some stub)
        hooked := (target, stub) :: state.hooked
        calls := update state.calls call none }
    | some _ =>
      { state with
        released := if success then stub :: state.released else state.released
        calls := update state.calls call none }
  | _ => state

/-- The look-up of `Unhook`. -/
def lookup (state : ShadowHookState) (call target : Nat) (valid : Bool) : ShadowHookState :=
  if valid then
    match state.stubs target with
    | some stub => state.setCall call (some ⟨target, stub, .releasing⟩)
    | none => state
  else state

/-- What `Unhook` does without the lock. -/
def release (state : ShadowHookState) (call : Nat) (success : Bool) : ShadowHookState :=
  match state.calls call with
  | some ⟨target, stub, .releasing⟩ =>
    if success then
      { state with
        released := stub :: state.released
        calls := update state.calls call (some ⟨target, stub, .erasing⟩) }
    else state.setCall call none
  | _ => state

/-- The end of `Unhook`: whatever is under the target is erased. -/
def erase (state : ShadowHookState) (call : Nat) : ShadowHookState :=
  match state.calls call with
  | some ⟨target, stub, .erasing⟩ =>
    { state with
      stubs := update state.stubs target none
      unhooked := stub :: state.unhooked
      calls := update state.calls call none }
  | _ => state

def step (state : ShadowHookState) : StubAction → ShadowHookState
  | .hook call target valid stub => state.hook call target valid stub
  | .emplace call success => state.emplace call success
  | .lookup call target valid => state.lookup call target valid
  | .release call success => state.release call success
  | .erase call => state.erase call

/-- The stub that a step passes to `shadowhook_unhook`. -/
def passed (state : ShadowHookState) : StubAction → Option HookStub
  | .emplace call _ =>
    match state.calls call with
    | some ⟨target, stub, .emplacing⟩ => if (state.stubs target).isSome then some stub else none
    | _ => none
  | .release call _ =>
    match state.calls call with
    | some ⟨_, stub, .releasing⟩ => some stub
    | _ => none
  | _ => none

/-- The stub of the last `Hook` of a target that has returned 0 and that no `Unhook` has. -/
def lastHook (state : ShadowHookState) (target : Nat) : Option HookStub :=
  (state.hooked.find? fun entry => entry.1 = target ∧ entry.2 ∉ state.unhooked).map Prod.snd

/-! ## What the host promises -/

/-- A new `Unhook` finds the stub, and ShadowHook can let go of it. -/
def Removable (state : ShadowHookState) (target : Nat) (stub : HookStub) : Prop :=
  ∃ call, state.calls call = none ∧
    stub ∈ ((state.step (.lookup call target true)).step (.release call true)).released

/-- The map is as the calls that have returned say, and a stub that ShadowHook has given and has not
let go of can be removed, if its `Hook` is not still under way. -/
structure Kept (state : ShadowHookState) : Prop where
  current : ∀ target, state.stubs target = state.lastHook target
  removable : ∀ target stub, (target, stub) ∈ state.given → stub ∉ state.released →
    state.Removable target stub ∨ ∃ call, state.calls call = some ⟨target, stub, .emplacing⟩

/-- What a step does to the stubs of others: it passes no stub to `shadowhook_unhook` that has been
let go of, and erases no entry but that of the stub it has looked up. -/
structure Lawful (state : ShadowHookState) (action : StubAction) : Prop where
  passes : ∀ stub, state.passed action = some stub → stub ∉ state.released
  erases : ∀ call target stub, action = .erase call →
    state.calls call = some ⟨target, stub, .erasing⟩ →
      ∀ other, state.stubs target = some other → other = stub

/-- Calls have numbers of their own, and ShadowHook gives a stub that it has not given before. -/
def Enabled (state : ShadowHookState) : StubAction → Prop
  | .hook call _ _ stub =>
    state.calls call = none ∧ ∀ given, stub = some given → given ∉ state.given.map Prod.snd
  | .lookup call _ _ => state.calls call = none
  | _ => True

/-- When an `Unhook` goes on to `shadowhook_unhook`, its stub is still in the map and no other
`Unhook` of the target is about to erase the entry; and when a `Hook` finds an entry, its
`shadowhook_unhook` succeeds. -/
def Undisturbed (state : ShadowHookState) : StubAction → Prop
  | .emplace call success => ∀ target stub, state.calls call = some ⟨target, stub, .emplacing⟩ →
    state.stubs target ≠ none → success = true
  | .release call _ => ∀ target stub, state.calls call = some ⟨target, stub, .releasing⟩ →
    state.stubs target = some stub ∧
      ∀ other stub', state.calls other ≠ some ⟨target, stub', .erasing⟩
  | _ => True

/-! ## The invariant -/

/-- The map holds the stubs between their `Hook` and their `Unhook`, and a stub in it that has been
let go of is about to be erased by the one call that has done so. -/
structure Sound (state : ShadowHookState) : Prop where
  fresh : (state.given.map Prod.snd).Nodup
  idle : ∃ bound, ∀ call, bound ≤ call → state.calls call = none
  hooked : ∀ entry ∈ state.hooked, entry ∈ state.given
  mapped : ∀ target stub,
    state.stubs target = some stub ↔ (target, stub) ∈ state.hooked ∧ stub ∉ state.unhooked
  unhooked : ∀ stub ∈ state.unhooked, stub ∈ state.released
  released : ∀ stub ∈ state.released, stub ∈ state.given.map Prod.snd
  emplacing : ∀ call target stub, state.calls call = some ⟨target, stub, .emplacing⟩ →
    (target, stub) ∈ state.given ∧ (target, stub) ∉ state.hooked ∧ stub ∉ state.released
  soleEmplacing : ∀ call other target stub,
    state.calls call = some ⟨target, stub, .emplacing⟩ →
      state.calls other = some ⟨target, stub, .emplacing⟩ → call = other
  releasing : ∀ call target stub, state.calls call = some ⟨target, stub, .releasing⟩ →
    (target, stub) ∈ state.hooked
  erasing : ∀ call target stub, state.calls call = some ⟨target, stub, .erasing⟩ →
    state.stubs target = some stub ∧ stub ∈ state.released
  soleErasing : ∀ call other target stub stub',
    state.calls call = some ⟨target, stub, .erasing⟩ →
      state.calls other = some ⟨target, stub', .erasing⟩ → call = other
  ending : ∀ target stub, state.stubs target = some stub → stub ∈ state.released →
    ∃ call, state.calls call = some ⟨target, stub, .erasing⟩
  accounted : ∀ target stub, (target, stub) ∈ state.given → stub ∉ state.released →
    state.stubs target = some stub ∨ ∃ call, state.calls call = some ⟨target, stub, .emplacing⟩

theorem Sound.init : Sound {} := by
  refine ⟨nodup_nil, ⟨0, fun _ _ => rfl⟩, nofun, fun _ _ => ?_, nofun, nofun, nofun, nofun,
    nofun, nofun, nofun, nofun, nofun⟩
  exact iff_of_false nofun fun h => not_mem_nil h.1

section Facts
variable {state : ShadowHookState} {call target : Nat} {stub : HookStub}

variable (h : state.Sound)
include h

/-- A stub is given for one target. -/
theorem Sound.target_unique {target' : Nat}
    (hfirst : (target, stub) ∈ state.given) (hsecond : (target', stub) ∈ state.given) :
    target = target' :=
  congrArg Prod.fst (inj_on_of_nodup_map h.fresh hfirst hsecond rfl)

theorem Sound.given_of_mapped (hmap : state.stubs target = some stub) :
    (target, stub) ∈ state.given :=
  h.hooked _ ((h.mapped target stub).mp hmap).1

/-- The calls stay finitely many. -/
theorem Sound.idle_update (call : Nat) (running : Option StubCall) :
    ∃ bound, ∀ other, bound ≤ other → update state.calls call running other = none := by
  obtain ⟨bound, hbound⟩ := h.idle
  refine ⟨max bound (call + 1), fun other hother => ?_⟩
  rw [update_of_ne (by omega)]
  exact hbound other (by omega)

/-- The map is as the calls that have returned say. -/
theorem Sound.current (target : Nat) : state.stubs target = state.lastHook target := by
  unfold lastHook
  cases hfind : state.hooked.find? fun entry => entry.1 = target ∧ entry.2 ∉ state.unhooked with
  | none =>
    rw [Option.map_none]
    cases hmap : state.stubs target with
    | none => rfl
    | some stub =>
      obtain ⟨hhooked, hlive⟩ := (h.mapped target stub).mp hmap
      have hnot := List.find?_eq_none.mp hfind _ hhooked
      exact absurd (decide_eq_true ⟨rfl, hlive⟩) hnot
  | some entry =>
    have hentry := List.find?_some hfind
    rw [decide_eq_true_iff] at hentry
    obtain ⟨rfl, hlive⟩ := hentry
    exact (h.mapped entry.1 entry.2).mpr ⟨mem_of_find?_eq_some hfind, hlive⟩

omit h in
/-- A stub that ShadowHook has not let go of can be removed exactly when it is in the map. -/
theorem removable_iff (hidle : ∃ call, state.calls call = none) (hlive : stub ∉ state.released) :
    state.Removable target stub ↔ state.stubs target = some stub := by
  have hturn : ∀ call, state.calls call = none →
      (stub ∈ ((state.lookup call target true).release call true).released ↔
        state.stubs target = some stub) := by
    intro call hcall
    cases hmap : state.stubs target with
    | none =>
      have hlookup : state.lookup call target true = state := by
        rw [lookup, if_pos rfl, hmap]
      rw [hlookup, release, hcall]
      exact iff_of_false hlive nofun
    | some other =>
      have hlookup : state.lookup call target true =
          state.setCall call (some ⟨target, other, .releasing⟩) := by
        rw [lookup, if_pos rfl, hmap]
      have hfound : (state.setCall call (some ⟨target, other, .releasing⟩)).calls call =
          some ⟨target, other, .releasing⟩ := update_self ..
      rw [hlookup, release, hfound]
      dsimp only
      rw [if_pos rfl, Option.some.injEq, eq_comm]
      exact ⟨fun hmem => (mem_cons.mp hmem).resolve_right hlive,
        fun heq => mem_cons.mpr (Or.inl heq)⟩
  constructor
  · rintro ⟨call, hcall, hmem⟩
    exact (hturn call hcall).mp hmem
  · intro hmap
    obtain ⟨call, hcall⟩ := hidle
    exact ⟨call, hcall, (hturn call hcall).mpr hmap⟩

theorem Sound.kept : state.Kept := by
  refine ⟨h.current, fun target stub hgiven hlive => ?_⟩
  obtain ⟨bound, hidle⟩ := h.idle
  rw [removable_iff ⟨bound, hidle bound (Nat.le_refl _)⟩ hlive]
  exact h.accounted target stub hgiven hlive

end Facts

/-! ## The steps keep the invariant -/

section Steps
variable {state : ShadowHookState} {call target : Nat} {stub : HookStub}

variable (h : state.Sound)
include h

/-- `Hook` has been given a stub. -/
theorem Sound.hook {valid : Bool} {stub : Option HookStub} (hcall : state.calls call = none)
    (hfresh : ∀ given, stub = some given → given ∉ state.given.map Prod.snd) :
    (state.hook call target valid stub).Sound := by
  unfold ShadowHookState.hook
  split
  swap
  · exact h
  cases stub with
  | none => exact h
  | some stub =>
    have hnew : stub ∉ state.given.map Prod.snd := hfresh stub rfl
    have hstranger : ∀ {target'}, (target', stub) ∉ state.given :=
      fun hgiven => hnew (mem_map_of_mem (f := Prod.snd) hgiven)
    have hother : ∀ {other running}, state.calls other = some running →
        update state.calls call (some ⟨target, stub, .emplacing⟩) other =
          some running := by
      intro other running hrunning
      exact held_of_free hcall hrunning
    dsimp only
    constructor
    case fresh => exact nodup_cons.mpr ⟨hnew, h.fresh⟩
    case idle => exact h.idle_update call _
    case hooked => exact fun entry hentry => mem_cons_of_mem _ (h.hooked entry hentry)
    case mapped => exact h.mapped
    case unhooked => exact h.unhooked
    case released => exact fun other hmem => mem_cons_of_mem _ (h.released other hmem)
    case emplacing =>
      intro other target' stub' hrunning
      obtain ⟨-, hnewest⟩ | ⟨-, hold⟩ := write_eq_some.mp hrunning
      · obtain ⟨rfl, rfl, -⟩ := StubCall.mk.inj (Option.some.inj hnewest)
        exact ⟨mem_cons_self, fun hmem => hstranger (h.hooked _ hmem),
          fun hmem => hnew (h.released _ hmem)⟩
      · obtain ⟨hgiven, hrest⟩ := h.emplacing other target' stub' hold
        exact ⟨mem_cons_of_mem _ hgiven, hrest⟩
    case soleEmplacing =>
      intro first second target' stub' hfirst hsecond
      obtain ⟨heq, hnewest⟩ | ⟨-, hold⟩ := write_eq_some.mp hfirst
      · obtain ⟨heq', -⟩ | ⟨-, hold'⟩ := write_eq_some.mp hsecond
        · exact heq.trans heq'.symm
        · obtain ⟨rfl, rfl, -⟩ := StubCall.mk.inj (Option.some.inj hnewest)
          exact absurd (h.emplacing second _ _ hold').1 hstranger
      · obtain ⟨-, hnewest⟩ | ⟨-, hold'⟩ := write_eq_some.mp hsecond
        · obtain ⟨rfl, rfl, -⟩ := StubCall.mk.inj (Option.some.inj hnewest)
          exact absurd (h.emplacing first _ _ hold).1 hstranger
        · exact h.soleEmplacing first second target' stub' hold hold'
    case releasing =>
      intro other target' stub' hrunning
      obtain ⟨-, hnewest⟩ | ⟨-, hold⟩ := write_eq_some.mp hrunning
      · cases hnewest
      · exact h.releasing other target' stub' hold
    case erasing =>
      intro other target' stub' hrunning
      obtain ⟨-, hnewest⟩ | ⟨-, hold⟩ := write_eq_some.mp hrunning
      · cases hnewest
      · exact h.erasing other target' stub' hold
    case soleErasing =>
      intro first second target' stub' stub'' hfirst hsecond
      obtain ⟨-, hnewest⟩ | ⟨-, hold⟩ := write_eq_some.mp hfirst
      · cases hnewest
      obtain ⟨-, hnewest⟩ | ⟨-, hold'⟩ := write_eq_some.mp hsecond
      · cases hnewest
      exact h.soleErasing first second target' stub' stub'' hold hold'
    case ending =>
      intro target' stub' hmap hreleased
      obtain ⟨other, herasing⟩ := h.ending target' stub' hmap hreleased
      exact ⟨other, hother herasing⟩
    case accounted =>
      intro target' stub' hgiven hlive
      obtain heq | hgiven := mem_cons.mp hgiven
      · obtain ⟨rfl, rfl⟩ := Prod.mk.inj heq
        exact Or.inr ⟨call, update_self ..⟩
      · refine (h.accounted target' stub' hgiven hlive).imp_right ?_
        rintro ⟨other, hemplacing⟩
        exact ⟨other, hother hemplacing⟩

/-- `Hook` puts its stub into the map. -/
theorem Sound.emplaced (hcall : state.calls call = some ⟨target, stub, .emplacing⟩)
    (hfree : state.stubs target = none) : Sound { state with
      stubs := update state.stubs target (some stub)
      hooked := (target, stub) :: state.hooked
      calls := update state.calls call none } := by
  obtain ⟨hgiven, hunhooked, hlive⟩ := h.emplacing call target stub hcall
  have hkept : ∀ {target' stub'}, state.stubs target' = some stub' →
      update state.stubs target (some stub) target' = some stub' := by
    intro target' stub' hmap
    exact held_of_free hfree hmap
  constructor
  case fresh => exact h.fresh
  case idle => exact h.idle_update call _
  case hooked => exact forall_mem_cons.mpr ⟨hgiven, h.hooked⟩
  case mapped =>
    intro target' stub'
    dsimp only
    rw [write_eq_some, mem_cons, Prod.mk.injEq, h.mapped]
    constructor
    · rintro (⟨rfl, heq⟩ | ⟨-, hhooked, hlive'⟩)
      · obtain rfl := Option.some.inj heq
        exact ⟨Or.inl ⟨rfl, rfl⟩, fun hmem => hlive (h.unhooked _ hmem)⟩
      · exact ⟨Or.inr hhooked, hlive'⟩
    · rintro ⟨⟨rfl, rfl⟩ | hhooked, hlive'⟩
      · exact Or.inl ⟨rfl, rfl⟩
      · refine Or.inr ⟨?_, hhooked, hlive'⟩
        rintro rfl
        cases hfree.symm.trans ((h.mapped _ _).mpr ⟨hhooked, hlive'⟩)
  case unhooked => exact h.unhooked
  case released => exact h.released
  case emplacing =>
    intro other target' stub' hrunning
    obtain ⟨hne, hold⟩ := remove_eq_some.mp hrunning
    obtain ⟨hgiven', hunhooked', hlive'⟩ := h.emplacing other target' stub' hold
    refine ⟨hgiven', ?_, hlive'⟩
    intro hmem
    obtain heq | hmem := mem_cons.mp hmem
    · obtain ⟨rfl, rfl⟩ := Prod.mk.inj heq
      exact hne (h.soleEmplacing other call _ _ hold hcall)
    · exact hunhooked' hmem
  case soleEmplacing =>
    intro first second target' stub' hfirst hsecond
    exact h.soleEmplacing first second target' stub' (remove_eq_some.mp hfirst).2
      (remove_eq_some.mp hsecond).2
  case releasing =>
    intro other target' stub' hrunning
    exact mem_cons_of_mem _ (h.releasing other target' stub' (remove_eq_some.mp hrunning).2)
  case erasing =>
    intro other target' stub' hrunning
    obtain ⟨hmap, hreleased⟩ := h.erasing other target' stub' (remove_eq_some.mp hrunning).2
    exact ⟨hkept hmap, hreleased⟩
  case soleErasing =>
    intro first second target' stub' stub'' hfirst hsecond
    exact h.soleErasing first second target' stub' stub'' (remove_eq_some.mp hfirst).2
      (remove_eq_some.mp hsecond).2
  case ending =>
    intro target' stub' hmap hreleased
    obtain ⟨-, heq⟩ | ⟨-, hmap⟩ := write_eq_some.mp hmap
    · obtain rfl := Option.some.inj heq
      exact absurd hreleased hlive
    · obtain ⟨other, herasing⟩ := h.ending target' stub' hmap hreleased
      refine ⟨other, remove_eq_some.mpr ⟨?_, herasing⟩⟩
      rintro rfl
      cases hcall.symm.trans herasing
  case accounted =>
    intro target' stub' hgiven' hlive'
    obtain hmap | ⟨other, hother⟩ := h.accounted target' stub' hgiven' hlive'
    · exact Or.inl (hkept hmap)
    · by_cases heq : other = call
      · subst heq
        obtain ⟨rfl, rfl, -⟩ := StubCall.mk.inj (Option.some.inj (hcall.symm.trans hother))
        exact Or.inl (update_self ..)
      · exact Or.inr ⟨other, remove_eq_some.mpr ⟨heq, hother⟩⟩

/-- `Hook` finds an entry, and ShadowHook lets go of its stub. -/
theorem Sound.withdrawn (hcall : state.calls call = some ⟨target, stub, .emplacing⟩) :
    Sound { state with
      released := stub :: state.released
      calls := update state.calls call none } := by
  obtain ⟨hgiven, hunhooked, hlive⟩ := h.emplacing call target stub hcall
  constructor
  case fresh => exact h.fresh
  case idle => exact h.idle_update call _
  case hooked => exact h.hooked
  case mapped => exact h.mapped
  case unhooked => exact fun other hmem => mem_cons_of_mem _ (h.unhooked other hmem)
  case released =>
    exact forall_mem_cons.mpr ⟨mem_map_of_mem (f := Prod.snd) hgiven, h.released⟩
  case emplacing =>
    intro other target' stub' hrunning
    obtain ⟨hne, hold⟩ := remove_eq_some.mp hrunning
    obtain ⟨hgiven', hunhooked', hlive'⟩ := h.emplacing other target' stub' hold
    refine ⟨hgiven', hunhooked', fun hmem => ?_⟩
    obtain rfl | hmem := mem_cons.mp hmem
    · obtain rfl := h.target_unique hgiven' hgiven
      exact hne (h.soleEmplacing other call _ _ hold hcall)
    · exact hlive' hmem
  case soleEmplacing =>
    intro first second target' stub' hfirst hsecond
    exact h.soleEmplacing first second target' stub' (remove_eq_some.mp hfirst).2
      (remove_eq_some.mp hsecond).2
  case releasing =>
    intro other target' stub' hrunning
    exact h.releasing other target' stub' (remove_eq_some.mp hrunning).2
  case erasing =>
    intro other target' stub' hrunning
    obtain ⟨hmap, hreleased⟩ := h.erasing other target' stub' (remove_eq_some.mp hrunning).2
    exact ⟨hmap, mem_cons_of_mem _ hreleased⟩
  case soleErasing =>
    intro first second target' stub' stub'' hfirst hsecond
    exact h.soleErasing first second target' stub' stub'' (remove_eq_some.mp hfirst).2
      (remove_eq_some.mp hsecond).2
  case ending =>
    intro target' stub' hmap hreleased
    obtain rfl | hreleased := mem_cons.mp hreleased
    · obtain rfl := h.target_unique (h.given_of_mapped hmap) hgiven
      exact absurd ((h.mapped _ _).mp hmap).1 hunhooked
    · obtain ⟨other, herasing⟩ := h.ending target' stub' hmap hreleased
      refine ⟨other, remove_eq_some.mpr ⟨?_, herasing⟩⟩
      rintro rfl
      cases hcall.symm.trans herasing
  case accounted =>
    intro target' stub' hgiven' hlive'
    rw [mem_cons, not_or] at hlive'
    obtain ⟨hne, hlive'⟩ := hlive'
    refine (h.accounted target' stub' hgiven' hlive').imp_right ?_
    rintro ⟨other, hother⟩
    refine ⟨other, remove_eq_some.mpr ⟨?_, hother⟩⟩
    rintro rfl
    obtain ⟨-, rfl, -⟩ := StubCall.mk.inj (Option.some.inj (hcall.symm.trans hother))
    exact hne rfl

/-- Nothing is under way, or an `Unhook` that has only looked its stub up. -/
def Waiting (running : Option StubCall) : Prop :=
  ∀ target stub phase, running = some ⟨target, stub, phase⟩ → phase = .releasing

omit h in
/-- What other phases there are does not depend on the calls that wait. -/
theorem waiting_eq_some {running : Option StubCall} {phase : StubPhase} {other : Nat}
    (hbefore : Waiting (state.calls call)) (hafter : Waiting running) (hphase : phase ≠ .releasing) :
    (state.setCall call running).calls other = some ⟨target, stub, phase⟩ ↔
      state.calls other = some ⟨target, stub, phase⟩ := by
  unfold setCall
  dsimp only
  rw [write_eq_some]
  constructor
  · rintro (⟨-, hrunning⟩ | ⟨-, hother⟩)
    · exact absurd (hafter target stub phase hrunning) hphase
    · exact hother
  · intro hother
    refine Or.inr ⟨?_, hother⟩
    rintro rfl
    exact hphase (hbefore target stub phase hother)

/-- A look-up, and an `Unhook` whose stub ShadowHook keeps. -/
theorem Sound.setCall {running : Option StubCall}
    (hbefore : Waiting (state.calls call)) (hafter : Waiting running)
    (hhooked : ∀ target stub phase, running = some ⟨target, stub, phase⟩ →
      (target, stub) ∈ state.hooked) : (state.setCall call running).Sound := by
  have hemplacing : ∀ {other target stub},
      (state.setCall call running).calls other = some ⟨target, stub, .emplacing⟩ ↔
        state.calls other = some ⟨target, stub, .emplacing⟩ :=
    waiting_eq_some hbefore hafter nofun
  have herasing : ∀ {other target stub},
      (state.setCall call running).calls other = some ⟨target, stub, .erasing⟩ ↔
        state.calls other = some ⟨target, stub, .erasing⟩ :=
    waiting_eq_some hbefore hafter nofun
  constructor
  case fresh => exact h.fresh
  case idle => exact h.idle_update call running
  case hooked => exact h.hooked
  case mapped => exact h.mapped
  case unhooked => exact h.unhooked
  case released => exact h.released
  case emplacing =>
    intro other target stub hrunning
    exact h.emplacing other target stub (hemplacing.mp hrunning)
  case soleEmplacing =>
    intro first second target stub hfirst hsecond
    exact h.soleEmplacing first second target stub (hemplacing.mp hfirst) (hemplacing.mp hsecond)
  case releasing =>
    intro other target stub hrunning
    obtain ⟨-, hnewest⟩ | ⟨-, hold⟩ := write_eq_some.mp hrunning
    · exact hhooked target stub _ hnewest
    · exact h.releasing other target stub hold
  case erasing =>
    intro other target stub hrunning
    exact h.erasing other target stub (herasing.mp hrunning)
  case soleErasing =>
    intro first second target stub stub' hfirst hsecond
    exact h.soleErasing first second target stub stub' (herasing.mp hfirst) (herasing.mp hsecond)
  case ending =>
    intro target stub hmap hreleased
    obtain ⟨other, hother⟩ := h.ending target stub hmap hreleased
    exact ⟨other, herasing.mpr hother⟩
  case accounted =>
    intro target stub hgiven hlive
    refine (h.accounted target stub hgiven hlive).imp_right ?_
    rintro ⟨other, hother⟩
    exact ⟨other, hemplacing.mpr hother⟩

/-- ShadowHook lets go of a stub that is in the map. -/
theorem Sound.letGo (hcall : state.calls call = some ⟨target, stub, .releasing⟩)
    (hmap : state.stubs target = some stub)
    (hsole : ∀ other stub', state.calls other ≠ some ⟨target, stub', .erasing⟩) : Sound { state with
      released := stub :: state.released
      calls := update state.calls call (some ⟨target, stub, .erasing⟩) } := by
  have hgiven := h.given_of_mapped hmap
  have hother : ∀ {other target' stub' phase},
      state.calls other = some ⟨target', stub', phase⟩ → phase ≠ .releasing →
        update state.calls call (some ⟨target, stub, .erasing⟩) other =
          some ⟨target', stub', phase⟩ := by
    intro other target' stub' phase hrunning hphase
    refine held_of_ne ?_ hrunning
    rintro rfl
    obtain ⟨-, -, rfl⟩ := StubCall.mk.inj (Option.some.inj (hcall.symm.trans hrunning))
    exact hphase rfl
  have hemplacing : ∀ {other target' stub'},
      update state.calls call (some ⟨target, stub, .erasing⟩) other =
        some ⟨target', stub', .emplacing⟩ →
          state.calls other = some ⟨target', stub', .emplacing⟩ := by
    intro other target' stub' hrunning
    obtain ⟨-, hnewest⟩ | ⟨-, hold⟩ := write_eq_some.mp hrunning
    · cases hnewest
    · exact hold
  constructor
  case fresh => exact h.fresh
  case idle => exact h.idle_update call _
  case hooked => exact h.hooked
  case mapped => exact h.mapped
  case unhooked => exact fun other hmem => mem_cons_of_mem _ (h.unhooked other hmem)
  case released =>
    exact forall_mem_cons.mpr ⟨mem_map_of_mem (f := Prod.snd) hgiven, h.released⟩
  case emplacing =>
    intro other target' stub' hrunning
    obtain ⟨hgiven', hunhooked', hlive'⟩ := h.emplacing other target' stub' (hemplacing hrunning)
    refine ⟨hgiven', hunhooked', fun hmem => ?_⟩
    obtain rfl | hmem := mem_cons.mp hmem
    · obtain rfl := h.target_unique hgiven' hgiven
      exact hunhooked' ((h.mapped _ _).mp hmap).1
    · exact hlive' hmem
  case soleEmplacing =>
    intro first second target' stub' hfirst hsecond
    exact h.soleEmplacing first second target' stub' (hemplacing hfirst) (hemplacing hsecond)
  case releasing =>
    intro other target' stub' hrunning
    obtain ⟨-, hnewest⟩ | ⟨-, hold⟩ := write_eq_some.mp hrunning
    · cases hnewest
    · exact h.releasing other target' stub' hold
  case erasing =>
    intro other target' stub' hrunning
    obtain ⟨-, hnewest⟩ | ⟨-, hold⟩ := write_eq_some.mp hrunning
    · obtain ⟨rfl, rfl, -⟩ := StubCall.mk.inj (Option.some.inj hnewest)
      exact ⟨hmap, mem_cons_self⟩
    · obtain ⟨hmap', hreleased⟩ := h.erasing other target' stub' hold
      exact ⟨hmap', mem_cons_of_mem _ hreleased⟩
  case soleErasing =>
    intro first second target' stub' stub'' hfirst hsecond
    obtain ⟨heq, hnewest⟩ | ⟨-, hold⟩ := write_eq_some.mp hfirst
    · obtain ⟨heq', -⟩ | ⟨-, hold'⟩ := write_eq_some.mp hsecond
      · exact heq.trans heq'.symm
      · obtain ⟨rfl, -⟩ := StubCall.mk.inj (Option.some.inj hnewest)
        exact absurd hold' (hsole second _)
    · obtain ⟨-, hnewest⟩ | ⟨-, hold'⟩ := write_eq_some.mp hsecond
      · obtain ⟨rfl, -⟩ := StubCall.mk.inj (Option.some.inj hnewest)
        exact absurd hold (hsole first _)
      · exact h.soleErasing first second target' stub' stub'' hold hold'
  case ending =>
    intro target' stub' hmap' hreleased
    obtain rfl | hreleased := mem_cons.mp hreleased
    · obtain rfl := h.target_unique (h.given_of_mapped hmap') hgiven
      exact ⟨call, update_self ..⟩
    · obtain ⟨other, herasing⟩ := h.ending target' stub' hmap' hreleased
      exact ⟨other, hother herasing nofun⟩
  case accounted =>
    intro target' stub' hgiven' hlive'
    rw [mem_cons, not_or] at hlive'
    refine (h.accounted target' stub' hgiven' hlive'.2).imp_right ?_
    rintro ⟨other, hrunning⟩
    exact ⟨other, hother hrunning nofun⟩

/-- `Unhook` erases its entry. -/
theorem Sound.erased (hcall : state.calls call = some ⟨target, stub, .erasing⟩) : Sound { state with
      stubs := update state.stubs target none
      unhooked := stub :: state.unhooked
      calls := update state.calls call none } := by
  obtain ⟨hmap, hreleased⟩ := h.erasing call target stub hcall
  have hgiven := h.given_of_mapped hmap
  constructor
  case fresh => exact h.fresh
  case idle => exact h.idle_update call _
  case hooked => exact h.hooked
  case mapped =>
    intro target' stub'
    dsimp only
    rw [remove_eq_some, h.mapped, mem_cons, not_or]
    constructor
    · rintro ⟨hne, hhooked, hlive⟩
      refine ⟨hhooked, ?_, hlive⟩
      rintro rfl
      exact hne (h.target_unique (h.hooked _ hhooked) hgiven)
    · rintro ⟨hhooked, hne, hlive⟩
      refine ⟨?_, hhooked, hlive⟩
      rintro rfl
      have hmap' := (h.mapped _ _).mpr ⟨hhooked, hlive⟩
      exact hne (Option.some.inj (hmap'.symm.trans hmap))
  case unhooked => exact forall_mem_cons.mpr ⟨hreleased, h.unhooked⟩
  case released => exact h.released
  case emplacing =>
    intro other target' stub' hrunning
    exact h.emplacing other target' stub' (remove_eq_some.mp hrunning).2
  case soleEmplacing =>
    intro first second target' stub' hfirst hsecond
    exact h.soleEmplacing first second target' stub' (remove_eq_some.mp hfirst).2
      (remove_eq_some.mp hsecond).2
  case releasing =>
    intro other target' stub' hrunning
    exact h.releasing other target' stub' (remove_eq_some.mp hrunning).2
  case erasing =>
    intro other target' stub' hrunning
    obtain ⟨hne, hold⟩ := remove_eq_some.mp hrunning
    obtain ⟨hmap', hreleased'⟩ := h.erasing other target' stub' hold
    refine ⟨remove_eq_some.mpr ⟨?_, hmap'⟩, hreleased'⟩
    rintro rfl
    exact hne (h.soleErasing other call _ _ _ hold hcall)
  case soleErasing =>
    intro first second target' stub' stub'' hfirst hsecond
    exact h.soleErasing first second target' stub' stub'' (remove_eq_some.mp hfirst).2
      (remove_eq_some.mp hsecond).2
  case ending =>
    intro target' stub' hmap' hreleased'
    obtain ⟨hne, hmap'⟩ := remove_eq_some.mp hmap'
    obtain ⟨other, herasing⟩ := h.ending target' stub' hmap' hreleased'
    refine ⟨other, remove_eq_some.mpr ⟨?_, herasing⟩⟩
    rintro rfl
    exact hne (StubCall.mk.inj (Option.some.inj (herasing.symm.trans hcall))).1
  case accounted =>
    intro target' stub' hgiven' hlive'
    refine (h.accounted target' stub' hgiven' hlive').imp ?_ ?_
    · intro hmap'
      refine remove_eq_some.mpr ⟨?_, hmap'⟩
      rintro rfl
      obtain rfl := Option.some.inj (hmap'.symm.trans hmap)
      exact hlive' hreleased
    · rintro ⟨other, hemplacing⟩
      refine ⟨other, remove_eq_some.mpr ⟨?_, hemplacing⟩⟩
      rintro rfl
      cases hcall.symm.trans hemplacing

/-- A step that is not disturbed keeps the invariant. -/
theorem Sound.step {action : StubAction} (henabled : state.Enabled action)
    (hundisturbed : state.Undisturbed action) : (state.step action).Sound := by
  cases action with
  | hook call target valid stub => exact h.hook henabled.1 henabled.2
  | emplace call success =>
    show (state.emplace call success).Sound
    unfold emplace
    split
    next target stub hcall =>
      split
      next hfree => exact h.emplaced hcall hfree
      next other hother =>
        have hsuccess : success = true :=
          hundisturbed target stub hcall (by rw [hother]; nofun)
        rw [if_pos hsuccess]
        exact h.withdrawn hcall
    · exact h
  | lookup call target valid =>
    show (state.lookup call target valid).Sound
    unfold lookup
    split
    swap
    · exact h
    split
    next stub hmap =>
      refine h.setCall ?_ ?_ ?_
      · rw [show state.calls call = none from henabled]
        exact fun _ _ _ => nofun
      · intro target' stub' phase heq
        obtain ⟨-, -, rfl⟩ := StubCall.mk.inj (Option.some.inj heq)
        rfl
      · intro target' stub' phase heq
        obtain ⟨rfl, rfl, -⟩ := StubCall.mk.inj (Option.some.inj heq)
        exact ((h.mapped _ _).mp hmap).1
    next => exact h
  | release call success =>
    show (state.release call success).Sound
    unfold release
    split
    next target stub hcall =>
      obtain ⟨hmap, hsole⟩ := hundisturbed target stub hcall
      split
      next => exact h.letGo hcall hmap hsole
      next =>
        refine h.setCall ?_ (fun _ _ _ => nofun) (fun _ _ _ => nofun)
        intro target' stub' phase heq
        obtain ⟨-, -, rfl⟩ := StubCall.mk.inj (Option.some.inj (hcall.symm.trans heq))
        rfl
    next => exact h
  | erase call =>
    show (state.erase call).Sound
    unfold erase
    split
    next target stub hcall => exact h.erased hcall
    next => exact h

/-- A step that is not disturbed is as it should be. -/
theorem Sound.lawful {action : StubAction}
    (hundisturbed : state.Undisturbed action) : state.Lawful action := by
  constructor
  case passes =>
    intro stub hpassed hreleased
    cases action with
    | hook call target valid given => cases hpassed
    | emplace call success =>
      dsimp only [passed] at hpassed
      split at hpassed
      next target stub' hcall =>
        split at hpassed
        · obtain rfl := Option.some.inj hpassed
          exact (h.emplacing call target _ hcall).2.2 hreleased
        · cases hpassed
      next => cases hpassed
    | lookup call target valid => cases hpassed
    | release call success =>
      dsimp only [passed] at hpassed
      split at hpassed
      next target stub' hcall =>
        obtain rfl := Option.some.inj hpassed
        obtain ⟨hmap, hsole⟩ := hundisturbed target _ hcall
        obtain ⟨other, hother⟩ := h.ending target _ hmap hreleased
        exact hsole other _ hother
      next => cases hpassed
    | erase call => cases hpassed
  case erases =>
    intro call target stub _ hcall other hother
    exact Option.some.inj (hother.symm.trans (h.erasing call target stub hcall).1)

/-- After a step that is disturbed a stub has been passed on that ShadowHook had let go of, or one
that it keeps cannot be removed. -/
theorem Sound.disturbed {action : StubAction}
    (hdisturbed : ¬ state.Undisturbed action) (hlawful : state.Lawful action) :
    ¬ (state.step action).Kept := by
  cases action with
  | hook call target valid given => exact absurd trivial hdisturbed
  | emplace call success =>
    intro hkept
    apply hdisturbed
    intro target stub hcall hoccupied
    by_contra hfailed
    obtain ⟨hgiven, hunhooked, hlive⟩ := h.emplacing call target stub hcall
    have hstep : state.step (.emplace call success) = state.setCall call none := by
      show state.emplace call success = _
      unfold emplace
      rw [hcall]
      dsimp only
      split
      next hfree => exact absurd hfree hoccupied
      next => rw [if_neg hfailed, ShadowHookState.setCall]
    rw [hstep] at hkept
    have hidle : ∃ other, (state.setCall call none).calls other = none :=
      ⟨call, update_self ..⟩
    obtain hremovable | ⟨other, hother⟩ := hkept.removable target stub hgiven hlive
    · have hmap := (removable_iff hidle hlive).mp hremovable
      exact hunhooked ((h.mapped target stub).mp hmap).1
    · obtain ⟨hne, hold⟩ := remove_eq_some.mp hother
      exact hne (h.soleEmplacing other call _ _ hold hcall)
  | lookup call target valid => exact absurd trivial hdisturbed
  | release call success =>
    refine absurd ?_ hdisturbed
    intro target stub hcall
    have hlive : stub ∉ state.released := by
      apply hlawful.passes
      rw [passed, hcall]
    have hmap : state.stubs target = some stub :=
      (h.mapped target stub).mpr ⟨h.releasing call target stub hcall,
        fun hmem => hlive (h.unhooked stub hmem)⟩
    refine ⟨hmap, fun other stub' hother => ?_⟩
    obtain ⟨hmap', hreleased⟩ := h.erasing other target stub' hother
    rw [Option.some.inj (hmap.symm.trans hmap')] at hlive
    exact hlive hreleased
  | erase call => exact absurd trivial hdisturbed

end Steps

/-! ## Every interleaving -/

/-- In a run whose calls have numbers of their own, and in which ShadowHook gives every stub once,
the map is kept and every step is as it should be if and only if no step is disturbed. -/
theorem stubs_kept_iff (actions : List StubAction)
    (henabled : AlongSteps step Enabled {} actions) :
    Along step Kept {} actions ∧ AlongSteps step Lawful {} actions ↔
      AlongSteps step Undisturbed {} actions :=
  along_and_steps_iff (fun _ h => h.kept)
    (fun _ _ h hstep hundisturbed => ⟨h.step hstep hundisturbed, h.lawful hundisturbed⟩)
    (fun _ _ h _ hdisturbed hlawful => h.disturbed hdisturbed hlawful) henabled Sound.init

/-- A hook and its removal, with a second hook of the target that comes between the two parts of the
removal and is withdrawn. -/
def secondHook : List StubAction :=
  [.hook 0 16 true (some 7), .emplace 0 true, .lookup 1 16 true, .release 1 true,
    .hook 2 16 true (some 8), .emplace 2 true, .erase 1]

theorem stubs_kept_iff_secondHook :
    AlongSteps step Enabled {} secondHook ∧
      (Along step Kept {} secondHook ∧ AlongSteps step Lawful {} secondHook ↔
        AlongSteps step Undisturbed {} secondHook) := by
  have henabled : AlongSteps step Enabled {} secondHook := by
    simp only [secondHook, alongSteps_cons, alongSteps_nil, Enabled, and_true, true_and]
    refine ⟨?_, by decide, by decide, ?_⟩
    · intro given heq
      obtain rfl := Option.some.inj heq
      decide
    · intro given heq
      obtain rfl := Option.some.inj heq
      decide
  exact ⟨henabled, stubs_kept_iff _ henabled⟩

/-- Two calls remove the hook of a target, and both find its stub. -/
def twoRemovals : List StubAction :=
  [.hook 0 16 true (some 7), .emplace 0 true, .lookup 1 16 true, .lookup 2 16 true,
    .release 1 true, .erase 1, .hook 3 16 true (some 8), .emplace 3 true, .release 2 true, .erase 2]

/-- The second one passes the stub on after ShadowHook has let go of it; and when ShadowHook says
again that it has, the entry that is erased is that of the hook installed in between. -/
theorem stubs_not_kept :
    AlongSteps step Enabled {} twoRemovals ∧ ¬ Along step Kept {} twoRemovals ∧
      ¬ AlongSteps step Lawful {} twoRemovals := by
  refine ⟨?_, fun hkept => ?_, fun hlawful => ?_⟩
  · simp only [twoRemovals, alongSteps_cons, alongSteps_nil, Enabled, and_true, true_and]
    refine ⟨?_, by decide, by decide, by decide, ?_⟩
    · intro given heq
      obtain rfl := Option.some.inj heq
      decide
    · intro given heq
      obtain rfl := Option.some.inj heq
      decide
  · have hcurrent := (hkept twoRemovals (prefix_refl _)).current 16
    exact absurd hcurrent (by decide)
  · have hrelease := hlawful (twoRemovals.take 8) (.release 2 true) (by decide)
    exact hrelease.passes 7 (by decide) (by decide)

end ShadowHookState

end DartPlant
