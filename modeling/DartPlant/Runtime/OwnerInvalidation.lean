import DartPlant.Runtime.HookTransition

/-! # Invalidation by owner

One physical hook serves the listeners of any number of runtimes and images.  When a runtime
generation or an image incarnation goes, its listeners leave every hook, the others stay as they
are, and a hook that lost its last listener is unhooked (`owner_invalidation_exact`).

`Option γ` is a pointer to a generation: a hook or listener without a runtime has none, and an
invalidation without a generation is about nobody.
-/

namespace DartPlant
open RuntimeHook

/-! ## The registry -/

section Registry
variable {β γ : Type} [DecidableEq γ]

/-- A record that left its hook; a handle may still hold it. -/
def ListenerRecord.deactivated (listener : ListenerRecord β) : ListenerRecord β :=
  { listener with active := false }

/-- `RemoveMatchingListenersLocked`: the listeners that stay, the ones that leave, and whether any
matched. -/
def removeMatchingListenersLocked (predicate : β → Bool) :
    List (ListenerRecord β) → List (ListenerRecord β) × List (ListenerRecord β) × Bool
  | [] => ([], [], false)
  | listener :: rest =>
    let (kept, removed, matched) := removeMatchingListenersLocked predicate rest
    if predicate listener.binding then (kept, listener.deactivated :: removed, true)
    else (listener :: kept, removed, matched)

/-- The hooks, and the listener records that left them. -/
structure HookRegistry (γ : Type) where
  hooks : List (RuntimeHook (Option γ))
  released : List (ListenerRecord (ListenerOwner (Option γ)))

/-- The records that leave the hook in its turn; a retired hook is passed over. -/
def RuntimeHook.released (hook : RuntimeHook γ) (invalidation : Invalidation (ListenerOwner γ)) :
    List (ListenerRecord (ListenerOwner γ)) :=
  if hook.record.state = .retired then []
  else (removeMatchingListenersLocked invalidation.stale hook.record.listeners).2.1

/-- The loop of the invalidations over all hooks; the last error is the one returned. -/
def invalidateHooks (invalidation : RuntimeHook γ → Invalidation (ListenerOwner γ)) :
    List (RuntimeHook γ) → Result Unit →
      List (RuntimeHook γ) × List (ListenerRecord (ListenerOwner γ)) × Result Unit
  | [], status => ([], [], status)
  | hook :: rest, status =>
    let (after, result) := hook.invalidate (invalidation hook)
    let (others, released, last) :=
      invalidateHooks invalidation rest (if result = .ok () then status else result)
    (after :: others, hook.released (invalidation hook) ++ released, last)

namespace HookRegistry

def invalidate (registry : HookRegistry γ)
    (invalidation : RuntimeHook (Option γ) → Invalidation (ListenerOwner (Option γ))) :
    HookRegistry γ × Result Unit :=
  let (hooks, released, status) := invalidateHooks invalidation registry.hooks (.ok ())
  (⟨hooks, registry.released ++ released⟩, status)

/-- `InvalidateRuntimeHooks`. -/
def invalidateRuntimeHooks (registry : HookRegistry γ) (runtimeGeneration : Option γ) :
    HookRegistry γ × Result Unit :=
  if runtimeGeneration = none then (registry, .ok ())
  else registry.invalidate fun hook => hook.runtimeMatch runtimeGeneration

/-- `InvalidateRuntimeImageHooks`. -/
def invalidateRuntimeImageHooks (registry : HookRegistry γ) (runtimeGeneration : Option γ)
    (imageId : RuntimeImageId) (epoch : RuntimeImageIncarnationEpoch) :
    HookRegistry γ × Result Unit :=
  if runtimeGeneration = none ∨ imageId = 0 then (registry, .ok ())
  else registry.invalidate fun hook => hook.imageMatch runtimeGeneration (imageId, epoch)

end HookRegistry

end Registry

/-! ## What is owed -/

/-- Whom an invalidation is about: the listeners it owns, and the records that were its own. -/
structure OwnerScope (γ : Type) where
  listener : ListenerOwner (Option γ) → Bool
  record : RuntimeHook (Option γ) → Bool

section Scopes
variable {γ : Type} [DecidableEq γ]

/-- A runtime generation. -/
def runtimeScope (generation : Option γ) : OwnerScope γ where
  listener owner := generation.isSome && decide (owner.generation = generation)
  record hook := generation.isSome && decide (hook.generation = generation)

/-- An image of a runtime generation; epoch zero stands for every incarnation, and image zero for
none. -/
def imageScope (generation : Option γ) (image : ImageToken) : OwnerScope γ where
  listener owner := (runtimeScope generation).listener owner && image.1 != 0 &&
    owner.owner.any (imageMatches image)
  record hook := (runtimeScope generation).record hook && image.1 != 0 &&
    hook.codeTarget.any (imageMatches image)

end Scopes

/-- The physical unhook of the hook begins. -/
def Begins {γ : Type} (before after : RuntimeHook γ) : Prop :=
  ∃ rest, after.calls = before.calls ++ PhysicalCall.beginUnhook :: rest

/-- The scope loses its listeners on a hook that is not retired, the others stay as they are and in
order.  The unhook begins exactly where the scope had a listener, or the record when there are no
listeners, and none remains, and no unhook was begun before; nothing else changes. -/
structure ExactTurn {γ : Type} (scope : OwnerScope γ)
    (before after : RuntimeHook (Option γ)) : Prop where
  listeners : after.record.listeners =
    if before.record.state = .retired then before.record.listeners
    else before.record.listeners.filter fun l => !scope.listener l.binding
  begins : Begins before after ↔ ¬ before.Closed ∧ after.record.listeners = [] ∧
    ((∃ l ∈ before.record.listeners, scope.listener l.binding = true) ∨
      before.record.listeners = [] ∧ scope.record before = true)
  otherwise : ¬ Begins before after → after =
    { before with record := { before.record with listeners := after.record.listeners } }

/-- Every hook has its turn, and exactly the listeners that left are deactivated. -/
structure InvalidatedExactly {γ : Type} (scope : OwnerScope γ) (before after : HookRegistry γ) :
    Prop where
  hooks : List.Forall₂ (ExactTurn scope) before.hooks after.hooks
  released : after.released = before.released ++ before.hooks.flatMap fun hook =>
    if hook.record.state = .retired then []
    else (hook.record.listeners.filter fun l => scope.listener l.binding).map
      ListenerRecord.deactivated

/-! ## One turn -/

section Turn
variable {β : Type}

theorem removeMatchingListenersLocked_eq (predicate : β → Bool)
    (listeners : List (ListenerRecord β)) :
    removeMatchingListenersLocked predicate listeners =
      (listeners.filter fun l => !predicate l.binding,
        (listeners.filter fun l => predicate l.binding).map ListenerRecord.deactivated,
        listeners.any fun l => predicate l.binding) := by
  induction listeners with
  | nil => rfl
  | cons listener rest ih =>
    rw [removeMatchingListenersLocked, ih]
    cases hmatch : predicate listener.binding with
    | true => simp [hmatch]
    | false => simp [hmatch]

variable {γ : Type} [DecidableEq γ] {hook : RuntimeHook (Option γ)} {scope : OwnerScope γ}
  {invalidation : Invalidation (ListenerOwner (Option γ))}

omit [DecidableEq γ] in
theorem not_begins_self (record : HookRecord (ListenerOwner (Option γ))) :
    ¬ Begins hook { hook with record := record } := by
  rintro ⟨rest, hcalls⟩
  have hlength := congrArg List.length hcalls
  simp at hlength

omit [DecidableEq γ] in
/-- A scope that owns nothing here leaves the hook alone. -/
theorem exactTurn_self (hlistener : ∀ l ∈ hook.record.listeners,
    scope.listener l.binding = false) (hrecord : scope.record hook = false) :
    ExactTurn scope hook hook := by
  have hself : ¬ Begins hook hook := not_begins_self hook.record
  refine ⟨?_, ?_, fun _ => rfl⟩
  · split
    · rfl
    · symm
      apply List.filter_eq_self.mpr
      intro l hl
      rw [hlistener l hl]
      rfl
  · refine ⟨fun h => absurd h hself, ?_⟩
    rintro ⟨-, -, ⟨l, hl, howned⟩ | ⟨-, howned⟩⟩
    · rw [hlistener l hl] at howned
      cases howned
    · rw [hrecord] at howned
      cases howned

omit [DecidableEq γ] in
theorem turn_listeners_eq : (hook.turn invalidation).1.listeners =
    hook.record.listeners.filter fun l => !invalidation.stale l.binding := by
  unfold turn
  split
  next hnone => rw [hnone, List.filter_nil]
  · rfl

omit [DecidableEq γ] in
theorem turn_matched : (hook.turn invalidation).2 = true ↔
    (∃ l ∈ hook.record.listeners, invalidation.stale l.binding = true) ∨
      hook.record.listeners = [] ∧ invalidation.matchesRecord = true := by
  unfold turn
  split
  next hnone => simp [hnone]
  next hsome => simp [hsome, removeMatchingListeners]

omit [DecidableEq γ] in
theorem turn_record : (hook.turn invalidation).1 =
    { hook.record with listeners := (hook.turn invalidation).1.listeners } := by
  unfold turn
  split <;> rfl

omit [DecidableEq γ] in
/-- Nothing is done with a record on which no unhook can begin. -/
theorem unhook_closed {record : HookRecord (ListenerOwner (Option γ))}
    (hclosed : record.state = .unhooked ∨ record.state = .unhooking ∨ record.state = .retired) :
    { hook with
      record := (unhookRecordLocked record hook.published hook.outcome).1
      published := (unhookRecordLocked record hook.published hook.outcome).2.1
      calls := hook.calls ++ unhookCalls record hook.published hook.outcome } =
    { hook with record := record } := by
  obtain ⟨hcalls, hrecord⟩ := unhookCalls_closed hook.published hook.outcome hclosed
  have hpublished : (unhookRecordLocked record hook.published hook.outcome).2.1 =
      hook.published := by
    unfold unhookRecordLocked startUnhook
    rcases hclosed with h | h | h <;> simp [h]
  rw [hcalls, hrecord, hpublished, List.append_nil]

omit [DecidableEq γ] in
theorem invalidate_exactTurn (hskip : invalidation.skipUnhooked = false)
    (hstale : ∀ owner, invalidation.stale owner = scope.listener owner)
    (hrecord : invalidation.matchesRecord = scope.record hook) :
    ExactTurn scope hook (hook.invalidate invalidation).1 := by
  by_cases hretired : hook.record.state = .retired
  · rw [invalidate_retired hretired]
    have hself : ¬ Begins hook hook := not_begins_self hook.record
    refine ⟨by rw [if_pos hretired], ?_, fun _ => rfl⟩
    refine ⟨fun h => absurd h hself, fun h => absurd ?_ h.1⟩
    exact Or.inr (Or.inr hretired)
  have hlisteners : (hook.invalidate invalidation).1.record.listeners =
      hook.record.listeners.filter fun l => !scope.listener l.binding := by
    rw [invalidate_listeners hskip hretired, turn_listeners_eq]
    apply List.filter_congr
    intro l _
    rw [hstale]
  have hmatched : (hook.turn invalidation).2 = true ↔
      (∃ l ∈ hook.record.listeners, scope.listener l.binding = true) ∨
        hook.record.listeners = [] ∧ scope.record hook = true := by
    rw [turn_matched, hrecord]
    simp only [hstale]
  by_cases hkept : (hook.turn invalidation).2 = false ∨
      (hook.turn invalidation).1.listeners ≠ []
  · have hafter : (hook.invalidate invalidation).1 =
        { hook with record := (hook.turn invalidation).1 } := by
      rw [invalidate_turn hskip hretired, if_pos hkept]
    have hidle : ¬ Begins hook (hook.invalidate invalidation).1 := by
      rw [hafter]
      exact not_begins_self _
    refine ⟨by rw [if_neg hretired, hlisteners], ?_, fun _ => ?_⟩
    · refine ⟨fun h => absurd h hidle, ?_⟩
      rintro ⟨-, hempty, howned⟩
      rw [hafter] at hempty
      rcases hkept with hunmatched | hsome
      · rw [hmatched.mpr howned] at hunmatched
        cases hunmatched
      · exact absurd hempty hsome
    · rw [hafter]
      exact congrArg (fun record => { hook with record := record }) turn_record
  obtain ⟨hfound, hempty⟩ := not_or.mp hkept
  have howned := hmatched.mp (Bool.eq_true_of_not_eq_false hfound)
  have hnone : (hook.invalidate invalidation).1.record.listeners = [] := by
    rw [invalidate_listeners hskip hretired]
    exact not_not.mp hempty
  by_cases hclosed : hook.Closed
  · have hafter : (hook.invalidate invalidation).1 =
        { hook with record := (hook.turn invalidation).1 } := by
      rw [invalidate_turn hskip hretired, if_neg hkept]
      exact unhook_closed (by rw [turn_state]; exact hclosed)
    have hidle : ¬ Begins hook (hook.invalidate invalidation).1 := by
      rw [hafter]
      exact not_begins_self _
    refine ⟨by rw [if_neg hretired, hlisteners], ?_, fun _ => ?_⟩
    · exact ⟨fun h => absurd h hidle, fun h => absurd hclosed h.1⟩
    · rw [hafter]
      exact congrArg (fun record => { hook with record := record }) turn_record
  · have hbegins : Begins hook (hook.invalidate invalidation).1 := by
      refine invalidate_begins hskip (fun hbefore => ?_) hclosed hnone
      rcases howned with ⟨l, hl, -⟩ | ⟨-, howned⟩
      · rw [hbefore] at hl
        cases hl
      · exact hrecord.trans howned
    refine ⟨by rw [if_neg hretired, hlisteners], ?_, fun h => absurd hbegins h⟩
    exact ⟨fun _ => ⟨hclosed, hnone, howned⟩, fun _ => hbegins⟩

end Turn

/-! ## All hooks -/

section Hooks
variable {γ : Type}

/-- The hooks after the loop are those of the other model of the same loop. -/
theorem invalidateHooks_eq (invalidation : RuntimeHook γ → Invalidation (ListenerOwner γ))
    (hooks : List (RuntimeHook γ)) (status : Result Unit) :
    invalidateHooks invalidation hooks status =
      ((invalidateAll invalidation hooks status).1,
        hooks.flatMap fun hook => hook.released (invalidation hook),
        (invalidateAll invalidation hooks status).2) := by
  induction hooks generalizing status with
  | nil => rfl
  | cons hook rest ih =>
    rw [invalidateHooks, invalidateAll]
    dsimp only
    rw [ih]
    rfl

variable {scope : OwnerScope γ} {registry : HookRegistry γ}

theorem invalidate_exact
    {invalidation : RuntimeHook (Option γ) → Invalidation (ListenerOwner (Option γ))}
    (hskip : ∀ hook, (invalidation hook).skipUnhooked = false)
    (hstale : ∀ hook owner, (invalidation hook).stale owner = scope.listener owner)
    (hrecord : ∀ hook, (invalidation hook).matchesRecord = scope.record hook) :
    InvalidatedExactly scope registry (registry.invalidate invalidation).1 := by
  rw [HookRegistry.invalidate, invalidateHooks_eq]
  constructor
  · dsimp only
    rw [invalidateAll_fst, List.forall₂_map_right_iff, List.forall₂_same]
    intro hook _
    exact invalidate_exactTurn (hskip hook) (hstale hook) (hrecord hook)
  · dsimp only
    congr 1
    apply List.flatMap_congr
    intro hook _
    rw [RuntimeHook.released, removeMatchingListenersLocked_eq]
    simp only [hstale]

/-- A scope of nobody leaves everything alone. -/
theorem exact_self (hlistener : ∀ owner, scope.listener owner = false)
    (hrecord : ∀ hook, scope.record hook = false) :
    InvalidatedExactly scope registry registry := by
  constructor
  · rw [List.forall₂_same]
    intro hook _
    exact exactTurn_self (fun l _ => hlistener l.binding) (hrecord hook)
  · symm
    rw [List.append_right_eq_self, List.flatMap_eq_nil_iff]
    intro hook _
    split
    · rfl
    · simp [hlistener]

variable [DecidableEq γ]

theorem invalidateRuntimeHooks_exact (registry : HookRegistry γ) (generation : Option γ) :
    InvalidatedExactly (runtimeScope generation) registry
      (registry.invalidateRuntimeHooks generation).1 := by
  unfold HookRegistry.invalidateRuntimeHooks
  split
  next hnone =>
    subst hnone
    exact exact_self (fun _ => rfl) fun _ => rfl
  next hsome =>
    have hnamed : generation.isSome = true := Option.isSome_iff_ne_none.mpr hsome
    refine invalidate_exact (fun _ => rfl) (fun hook owner => ?_) fun hook => ?_
    · simp [runtimeMatch, runtimeScope, hnamed]
    · simp [runtimeMatch, runtimeScope, hnamed]

theorem invalidateRuntimeImageHooks_exact (registry : HookRegistry γ) (generation : Option γ)
    (image : ImageToken) : InvalidatedExactly (imageScope generation image) registry
      (registry.invalidateRuntimeImageHooks generation image.1 image.2).1 := by
  unfold HookRegistry.invalidateRuntimeImageHooks
  split
  next hnobody =>
    rcases hnobody with rfl | hzero
    · exact exact_self (fun _ => rfl) fun _ => rfl
    · have hfalse : (image.1 != 0) = false := by simp [hzero]
      refine exact_self (fun owner => ?_) fun hook => ?_
      · simp only [imageScope, hfalse, Bool.and_false, Bool.false_and]
      · simp only [imageScope, hfalse, Bool.and_false, Bool.false_and]
  next hsome =>
    obtain ⟨hgeneration, hzero⟩ := not_or.mp hsome
    have hnamed : generation.isSome = true := Option.isSome_iff_ne_none.mpr hgeneration
    have himage : (image.1 != 0) = true := bne_iff_ne.mpr hzero
    refine invalidate_exact (fun _ => rfl) (fun hook owner => ?_) fun hook => ?_
    · simp only [imageMatch, imageScope, runtimeScope, hnamed, himage, Bool.true_and, Bool.and_true]
    · simp only [imageMatch, imageScope, runtimeScope, hnamed, himage, Bool.true_and, Bool.and_true]

end Hooks

/-- Both invalidations take exactly what their scope owns. -/
theorem owner_invalidation_exact {γ : Type} [DecidableEq γ] (registry : HookRegistry γ)
    (generation : Option γ) (image : ImageToken) :
    InvalidatedExactly (runtimeScope generation) registry
        (registry.invalidateRuntimeHooks generation).1 ∧
      InvalidatedExactly (imageScope generation image) registry
        (registry.invalidateRuntimeImageHooks generation image.1 image.2).1 :=
  ⟨invalidateRuntimeHooks_exact registry generation,
    invalidateRuntimeImageHooks_exact registry generation image⟩

/-- The record of a hook that was unhooked before. -/
def unhookedRecord : RuntimeHook (Option Unit) where
  record := {
    target := 0x1000
    hasMethod := true
    sharedCodeOptIn := false
    state := .unhooked
    active := false
    inFlight := 0
    backendInstalled := false
    entryReady := false
    exceptionBridgeConsumer := false
    boundToCodeTarget := false
    vmAdapterRetained := false
    nextListenerId := 2
    nextRegistrationOrder := 2
    listenerHandles := 1
    listeners := [] }
  published := none
  generation := some ()
  codeTarget := some (1, 1)
  outcome := ⟨true, true, true⟩
  calls := []

/-- The runtime of an unhooked record, which has no listeners, goes: nothing is unhooked again. -/
theorem unhooked_record_not_unhooked :
    let registry : HookRegistry Unit := ⟨[unhookedRecord], []⟩
    unhookedRecord.record.state ≠ .retired ∧ unhookedRecord.record.listeners = [] ∧
      (runtimeScope (some ())).record unhookedRecord = true ∧
      ((registry.invalidateRuntimeHooks (some ())).1.hooks.map fun hook =>
        (hook.record.listeners.length, hook.calls)) = [(0, [])] := by
  decide

end DartPlant
