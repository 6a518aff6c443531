import DartPlant.Core.Listeners
import DartPlant.Runtime.TransitionOwnership
import Mathlib.Data.List.Forall2

/-! # Hooks across an image transition

The hook registry as a transition sees it.  An image that is gone has its hooks retired: the records
are closed and nothing of the process is touched.  One that is still mapped has its hooks unhooked,
through the host and the RET sites.  `calls` is what a record's physical side was asked to do, in
order.

When a whole runtime goes the choice is made once, for all of its images together, so a hook of a
vanished image is unhooked when another image is still mapped.
`unmapped_hooks_only_retired_iff` says that this is the only way.

`γ` is the identity of a runtime generation: the shared counter that hooks and listeners hold.
-/

namespace DartPlant
open SharedLedger List

abbrev ImageToken := RuntimeImageId × RuntimeImageIncarnationEpoch

/-- What an invalidation reads of a listener: its generation, and the image that owns the Function
of its requested method, if it has one. -/
structure ListenerOwner (γ : Type) where
  generation : γ
  owner : Option ImageToken
  deriving DecidableEq, Repr

/-- What an unhook does outside the registry: it begins, which closes the entry, calls the host, and
has the RET sites rewritten. -/
inductive PhysicalCall where
  | beginUnhook
  | hostUnhook
  | restoreReturns
  deriving DecidableEq, Repr

/-- A hook of the registry: its record and gate, the generation and the image of its code target,
what the outside answers when its unhook finishes, and what was asked of its physical side. -/
structure RuntimeHook (γ : Type) where
  record : HookRecord (ListenerOwner γ)
  published : Option PublishedHostHook
  generation : γ
  codeTarget : Option ImageToken
  outcome : UnhookOutcome
  calls : List PhysicalCall

open RuntimeHook

/-! ## The calls of an unhook -/

section Calls
variable {β : Type}

/-- `UninstallPublishedHostHook` gets to the host callback. -/
def uninstallCallsHost (published : PublishedHostHook) : Bool :=
  published.backendInstalled && publishedHostHookEntrantsIdle published &&
    (closePublishedHostHook published).2 && hostCanUnhook (closePublishedHostHook published).1

/-- The calls of `FinishUnhookLocked`. -/
def finishUnhookCalls (hook : HookRecord β) (published : Option PublishedHostHook)
    (outcome : UnhookOutcome) : List PhysicalCall :=
  if hook.backendInstalled = false then [.restoreReturns]
  else
    match published with
    | some gated =>
      let (closed, isClosed) := closePublishedHostHook (beginDrainPublishedHostHook gated)
      if hook.inFlight ≠ 0 ∨ isClosed = false then []
      else
        let host := if uninstallCallsHost closed then [.hostUnhook] else []
        match (uninstallPublishedHostHook closed outcome.hostUnhook).2 with
        | .error _ => host
        | .ok () => host ++ [.restoreReturns]
    | none =>
      if hook.target = nullptr ∨ outcome.hostBound = false then []
      else if outcome.hostUnhook = false then [.hostUnhook]
      else [.hostUnhook, .restoreReturns]

/-- The calls of `UnhookRecordLocked`. -/
def unhookCalls (hook : HookRecord β) (published : Option PublishedHostHook)
    (outcome : UnhookOutcome) : List PhysicalCall :=
  match startUnhook published.isSome hook with
  | .done _ => []
  | .drain drained gatedDrain =>
    let draining := if gatedDrain then published.map beginDrainPublishedHostHook else published
    if drained.inFlight ≠ 0 then [.beginUnhook]
    else .beginUnhook :: finishUnhookCalls drained draining outcome

/-- The calls of one hook's turn in an invalidation. -/
def invalidateCalls (hook : HookRecord β) (published : Option PublishedHostHook)
    (invalidation : Invalidation β) (outcome : UnhookOutcome) : List PhysicalCall :=
  if hook.state = .retired ∨ (invalidation.skipUnhooked ∧ hook.state = .unhooked) then []
  else
    let (cleared, found) :=
      if hook.listeners = [] then (hook, invalidation.matchesRecord)
      else removeMatchingListeners hook invalidation.stale
    if found = false ∨ cleared.listeners ≠ [] then [] else unhookCalls cleared published outcome

end Calls

/-! ## The registry -/

namespace RuntimeHook
variable {γ : Type} [DecidableEq γ] (hook : RuntimeHook γ)

/-- One hook's turn in an invalidation. -/
def invalidate (invalidation : Invalidation (ListenerOwner γ)) : RuntimeHook γ × Result Unit :=
  let (record, published, result) :=
    invalidateHook hook.record hook.published invalidation hook.outcome
  ({ hook with
      record := record
      published := published
      calls := hook.calls ++
        invalidateCalls hook.record hook.published invalidation hook.outcome }, result)

/-- The record closed for good. -/
def retired (record : HookRecord (ListenerOwner γ)) : RuntimeHook γ :=
  { hook with record := { record with
      active := false
      listeners := []
      state := .retired
      exceptionBridgeConsumer := false } }

/-- What `InvalidateRuntimeHooks` and `RetireRuntimeHooks` match. -/
def runtimeMatch (generation : γ) : Invalidation (ListenerOwner γ) where
  skipUnhooked := false
  matchesRecord := decide (hook.generation = generation)
  stale listener := decide (listener.generation = generation)

/-- The image tokens match; epoch zero stands for every incarnation. -/
def imageMatches (image token : ImageToken) : Bool :=
  token.1 == image.1 && (image.2 == 0 || token.2 == image.2)

/-- What `InvalidateRuntimeImageHooks` and `RetireRuntimeImageHooks` match. -/
def imageMatch (generation : γ) (image : ImageToken) : Invalidation (ListenerOwner γ) where
  skipUnhooked := false
  matchesRecord := decide (hook.generation = generation) && hook.codeTarget.any (imageMatches image)
  stale listener := decide (listener.generation = generation) &&
    listener.owner.any (imageMatches image)

/-- The listeners an invalidation leaves, and whether it matched. -/
def turn (invalidation : Invalidation (ListenerOwner γ)) :
    HookRecord (ListenerOwner γ) × Bool :=
  if hook.record.listeners = [] then (hook.record, invalidation.matchesRecord)
  else removeMatchingListeners hook.record invalidation.stale

/-- One hook's turn in `RetireRuntimeHooks`. -/
def retireRuntime (generation : γ) : RuntimeHook γ :=
  if hook.record.state = .unhooked then hook
  else
    let (cleared, found) := hook.turn (hook.runtimeMatch generation)
    if found = false ∨ cleared.listeners ≠ [] then { hook with record := cleared }
    else hook.retired cleared

/-- One hook's turn in `RetireRuntimeImageHooks`: any match takes all the listeners. -/
def retireImage (generation : γ) (image : ImageToken) : RuntimeHook γ :=
  if hook.record.state = .unhooked then hook
  else
    let found := (hook.turn (hook.imageMatch generation image)).2
    if found then hook.retired hook.record else hook

/-- An invalidation of all hooks; the last error is the one returned. -/
def invalidateAll (invalidation : RuntimeHook γ → Invalidation (ListenerOwner γ)) :
    List (RuntimeHook γ) → Result Unit → List (RuntimeHook γ) × Result Unit
  | [], status => ([], status)
  | hook :: rest, status =>
    let (after, result) := hook.invalidate (invalidation hook)
    let (others, last) :=
      invalidateAll invalidation rest (if result = .ok () then status else result)
    (after :: others, last)

/-- The four calls that a transition makes on the registry. -/
def drain (generation : γ) : HookDrain (List (RuntimeHook γ)) where
  retireRuntimeHooks hooks := hooks.map fun hook => hook.retireRuntime generation
  invalidateRuntimeHooks hooks :=
    invalidateAll (fun hook => hook.runtimeMatch generation) hooks (.ok ())
  retireRuntimeImageHooks id epoch hooks :=
    if id = 0 then hooks else hooks.map fun hook => hook.retireImage generation (id, epoch)
  invalidateRuntimeImageHooks id epoch hooks :=
    if id = 0 then (hooks, .ok ())
    else invalidateAll (fun hook => hook.imageMatch generation (id, epoch)) hooks (.ok ())

/-- No unhook can begin on the record: it is over, under way, or given up. -/
def Closed : Prop :=
  hook.record.state = .unhooked ∨ hook.record.state = .unhooking ∨ hook.record.state = .retired

/-- The hook lies in the image: its code target and the methods of its listeners are owned by it,
and its listeners, or the record when it has none, are of the generation. -/
structure LiesIn (generation : γ) (image : RuntimeImage) : Prop where
  codeTarget : hook.codeTarget = some image.token
  listeners : ∀ listener ∈ hook.record.listeners, listener.binding.generation = generation ∧
    ∀ token ∈ listener.binding.owner, token = image.token
  record : hook.record.listeners = [] → hook.generation = generation

end RuntimeHook

/-! ## What a transition owes its hooks -/

section Owed
variable {γ : Type} [DecidableEq γ]

/-- A hook whose image is not mapped is at most retired: nothing is asked of its physical side.  The
unhook of a hook begins when its image is affected and mapped, it has lost its listeners, and an
unhook can begin on it. -/
def Handled (modules : List ModuleImage) (images affected : List RuntimeImage)
    (before after : RuntimeHook γ) : Prop :=
  ∀ image ∈ images, before.codeTarget = some image.token →
    (mappingStillPresent modules image = false → after.calls = before.calls ∧
      (after.record.state = before.record.state ∨ after.record.state = .retired)) ∧
    (mappingStillPresent modules image = true → image ∈ affected → ¬ before.Closed →
      after.record.listeners = [] →
      ∃ rest, after.calls = before.calls ++ PhysicalCall.beginUnhook :: rest)

/-- A set as a transition publishes it, or as a failed one leaves it. -/
structure PublishedSet (set : RuntimeImageSet) : Prop where
  numbered : WellNumbered set
  admitted : ∀ image ∈ set.images, image.lifecycle ≠ .retired

end Owed

/-! ## Calls -/

section CallLaws
variable {β : Type} {hook : HookRecord β} (published : Option PublishedHostHook)
  (outcome : UnhookOutcome)

/-- Nothing is asked for a record on which no unhook can begin. -/
theorem unhookCalls_closed (h : hook.state = .unhooked ∨ hook.state = .unhooking ∨
    hook.state = .retired) :
    unhookCalls hook published outcome = [] ∧
      (unhookRecordLocked hook published outcome).1 = hook := by
  unfold unhookCalls unhookRecordLocked startUnhook
  rcases h with h | h | h
  · simp only [h, if_true, and_self]
  · simp only [h, reduceCtorEq, if_false, if_true, and_self]
  · simp only [h, reduceCtorEq, if_false, if_true, and_self]

/-- On any other record the unhook begins. -/
theorem unhookCalls_open (h : ¬ (hook.state = .unhooked ∨ hook.state = .unhooking ∨
    hook.state = .retired)) :
    ∃ rest, unhookCalls hook published outcome = .beginUnhook :: rest := by
  obtain ⟨hunhooked, h⟩ := not_or.mp h
  obtain ⟨hunhooking, hretired⟩ := not_or.mp h
  unfold unhookCalls startUnhook
  rw [if_neg hunhooked, if_neg hretired, if_neg hunhooking]
  dsimp only
  split
  · exact ⟨[], rfl⟩
  · exact ⟨_, rfl⟩

theorem finishUnhookLocked_listeners :
    (finishUnhookLocked hook published outcome).1.listeners = hook.listeners := by
  have hreturns : ∀ hook : HookRecord β, (finishReturns hook outcome).1.listeners =
      hook.listeners := by
    intro hook
    unfold finishReturns
    dsimp only
    split
    · rfl
    · rfl
  unfold finishUnhookLocked
  split
  · exact hreturns hook
  cases published with
  | none =>
    dsimp only
    split
    · rfl
    · exact hreturns _
  | some gated =>
    dsimp only
    split
    · rfl
    split
    · rfl
    split
    · rfl
    · exact hreturns _

theorem unhookRecordLocked_listeners (hlisteners : hook.listeners = []) :
    (unhookRecordLocked hook published outcome).1.listeners = [] := by
  unfold unhookRecordLocked startUnhook
  by_cases hunhooked : hook.state = .unhooked
  · rw [if_pos hunhooked]
    exact hlisteners
  rw [if_neg hunhooked]
  by_cases hretired : hook.state = .retired
  · rw [if_pos hretired]
    exact hlisteners
  rw [if_neg hretired]
  by_cases hunhooking : hook.state = .unhooking
  · rw [if_pos hunhooking]
    exact hlisteners
  rw [if_neg hunhooking]
  dsimp only
  split
  · rfl
  · exact finishUnhookLocked_listeners _ outcome

end CallLaws

/-! ## One hook -/

namespace RuntimeHook
section Turn
variable {γ : Type} [DecidableEq γ] {hook : RuntimeHook γ} {generation : γ}
  {invalidation : Invalidation (ListenerOwner γ)}

omit [DecidableEq γ] in
theorem invalidate_retired (hretired : hook.record.state = .retired) :
    (hook.invalidate invalidation).1 = hook := by
  simp only [invalidate, invalidateHook, invalidateCalls, hretired, true_or, if_true,
    append_nil]

omit [DecidableEq γ] in
theorem invalidate_turn (hskip : invalidation.skipUnhooked = false)
    (hretired : hook.record.state ≠ .retired) :
    (hook.invalidate invalidation).1 =
      if (hook.turn invalidation).2 = false ∨ (hook.turn invalidation).1.listeners ≠ [] then
        { hook with record := (hook.turn invalidation).1 }
      else
        let record := (hook.turn invalidation).1
        { hook with
          record := (unhookRecordLocked record hook.published hook.outcome).1
          published := (unhookRecordLocked record hook.published hook.outcome).2.1
          calls := hook.calls ++ unhookCalls record hook.published hook.outcome } := by
  have hlive : ¬ (hook.record.state = .retired ∨
      (invalidation.skipUnhooked = true ∧ hook.record.state = .unhooked)) := by
    rw [hskip]
    rintro (h | ⟨h, -⟩)
    · exact hretired h
    · exact Bool.false_ne_true h
  unfold invalidate invalidateHook invalidateCalls turn
  rw [if_neg hlive, if_neg hlive]
  by_cases hlisteners : hook.record.listeners = []
  · simp only [if_pos hlisteners]
    split
    · rw [append_nil]
    · rfl
  · simp only [if_neg hlisteners]
    split
    · rw [append_nil]
    · rfl

omit [DecidableEq γ] in
theorem turn_nil (hlisteners : hook.record.listeners = []) :
    hook.turn invalidation = (hook.record, invalidation.matchesRecord) := by
  rw [turn, if_pos hlisteners]

omit [DecidableEq γ] in
theorem turn_state : (hook.turn invalidation).1.state = hook.record.state := by
  unfold turn
  split
  · rfl
  · rfl

omit [DecidableEq γ] in
/-- A turn that empties a list of listeners matched one of them. -/
theorem turn_emptied (hlisteners : hook.record.listeners ≠ [])
    (hempty : (hook.turn invalidation).1.listeners = []) : (hook.turn invalidation).2 = true := by
  unfold turn at hempty ⊢
  rw [if_neg hlisteners] at hempty ⊢
  obtain ⟨listener, hmem⟩ := exists_mem_of_ne_nil _ hlisteners
  have hstale := filter_eq_nil_iff.mp hempty listener hmem
  refine any_eq_true.mpr ⟨listener, hmem, ?_⟩
  simpa only [Bool.not_eq_true, Bool.not_eq_false'] using hstale

omit [DecidableEq γ] in
/-- An invalidation that matches neither the record nor a listener changes nothing. -/
theorem invalidate_unmatched (hskip : invalidation.skipUnhooked = false)
    (hrecord : invalidation.matchesRecord = false)
    (hlisteners : ∀ l ∈ hook.record.listeners, invalidation.stale l.binding = false) :
    (hook.invalidate invalidation).1 = hook := by
  by_cases hretired : hook.record.state = .retired
  · exact invalidate_retired hretired
  have hturn : hook.turn invalidation = (hook.record, false) := by
    unfold turn
    split
    · rw [hrecord]
    · have hfilter : hook.record.listeners.filter (fun l => !invalidation.stale l.binding) =
          hook.record.listeners :=
        filter_eq_self.mpr fun l hl => by rw [hlisteners l hl, Bool.not_false]
      have hany : (hook.record.listeners.any fun l => invalidation.stale l.binding) = false :=
        any_eq_false.mpr fun l hl => Bool.eq_false_iff.mp (hlisteners l hl)
      rw [removeMatchingListeners, hfilter, hany]
  rw [invalidate_turn hskip hretired, hturn, if_pos (.inl rfl)]

omit [DecidableEq γ] in
/-- A turn only takes listeners. -/
theorem turn_listeners : ∀ l ∈ (hook.turn invalidation).1.listeners, l ∈ hook.record.listeners := by
  intro l hl
  unfold turn at hl
  split at hl
  · exact hl
  · exact mem_of_mem_filter hl

omit [DecidableEq γ] in
/-- So does the whole invalidation. -/
theorem invalidate_listeners (hskip : invalidation.skipUnhooked = false)
    (hretired : hook.record.state ≠ .retired) :
    (hook.invalidate invalidation).1.record.listeners = (hook.turn invalidation).1.listeners := by
  rw [invalidate_turn hskip hretired]
  split
  · rfl
  · next hunhook =>
    have hempty : (hook.turn invalidation).1.listeners = [] :=
      not_not.mp (not_or.mp hunhook).2
    exact (unhookRecordLocked_listeners _ _ hempty).trans hempty.symm

omit [DecidableEq γ] in
/-- An invalidation that takes the last listener of an open hook begins its unhook. -/
theorem invalidate_begins (hskip : invalidation.skipUnhooked = false)
    (hrecord : hook.record.listeners = [] → invalidation.matchesRecord = true)
    (hopen : ¬ hook.Closed) (hafter : (hook.invalidate invalidation).1.record.listeners = []) :
    ∃ rest, (hook.invalidate invalidation).1.calls =
      hook.calls ++ PhysicalCall.beginUnhook :: rest := by
  have hretired : hook.record.state ≠ .retired := fun h => hopen (.inr (.inr h))
  have hempty : (hook.turn invalidation).1.listeners = [] := by
    rw [← invalidate_listeners hskip hretired, hafter]
  have hmatched : (hook.turn invalidation).2 = true := by
    by_cases hlisteners : hook.record.listeners = []
    · rw [turn_nil hlisteners]
      exact hrecord hlisteners
    · exact turn_emptied hlisteners hempty
  have hopen' : ¬ ((hook.turn invalidation).1.state = .unhooked ∨
      (hook.turn invalidation).1.state = .unhooking ∨
      (hook.turn invalidation).1.state = .retired) := by
    rw [turn_state]
    exact hopen
  have hunhook : ¬ ((hook.turn invalidation).2 = false ∨
      (hook.turn invalidation).1.listeners ≠ []) := by
    rw [hmatched, hempty]
    rintro (h | h)
    · exact Bool.false_ne_true h.symm
    · exact h rfl
  obtain ⟨rest, hcalls⟩ :=
    unhookCalls_open hook.published hook.outcome hopen'
  refine ⟨rest, ?_⟩
  rw [invalidate_turn hskip hretired, if_neg hunhook]
  exact congrArg (hook.calls ++ ·) hcalls

omit [DecidableEq γ] in
/-- An invalidation of a closed hook asks for nothing. -/
theorem invalidate_closed (hskip : invalidation.skipUnhooked = false) (hclosed : hook.Closed) :
    (hook.invalidate invalidation).1.calls = hook.calls ∧
      (hook.invalidate invalidation).1.record.state = hook.record.state := by
  by_cases hretired : hook.record.state = .retired
  · rw [invalidate_retired hretired]
    exact ⟨rfl, rfl⟩
  have hclosed' : (hook.turn invalidation).1.state = .unhooked ∨
      (hook.turn invalidation).1.state = .unhooking ∨
      (hook.turn invalidation).1.state = .retired := by
    rw [turn_state]
    exact hclosed
  rw [invalidate_turn hskip hretired]
  split
  · exact ⟨rfl, turn_state⟩
  · obtain ⟨hcalls, hrecord⟩ := unhookCalls_closed hook.published hook.outcome hclosed'
    dsimp only
    rw [hcalls, hrecord, append_nil]
    exact ⟨rfl, turn_state⟩

/-- A retirement asks for nothing. -/
theorem retireRuntime_logical :
    (hook.retireRuntime generation).calls = hook.calls ∧
      ((hook.retireRuntime generation).record.state = hook.record.state ∨
        (hook.retireRuntime generation).record.state = .retired) := by
  unfold retireRuntime
  split
  · exact ⟨rfl, .inl rfl⟩
  · dsimp only
    split
    · exact ⟨rfl, .inl turn_state⟩
    · exact ⟨rfl, .inr rfl⟩

theorem retireImage_logical {image : ImageToken} :
    (hook.retireImage generation image).calls = hook.calls ∧
      ((hook.retireImage generation image).record.state = hook.record.state ∨
        (hook.retireImage generation image).record.state = .retired) := by
  unfold retireImage
  split
  · exact ⟨rfl, .inl rfl⟩
  dsimp only
  split
  · exact ⟨rfl, .inr rfl⟩
  · exact ⟨rfl, .inl rfl⟩

/-! ### Image by image -/

/-- The hook's turn for one affected image. -/
def pass (modules : List ModuleImage) (generation : γ) (hook : RuntimeHook γ)
    (image : RuntimeImage) : RuntimeHook γ :=
  if mappingStillPresent modules image then
    (hook.invalidate (hook.imageMatch generation image.token)).1
  else hook.retireImage generation image.token

/-- The code target and the methods of the listeners are owned by the image. -/
def OwnedBy (hook : RuntimeHook γ) (image : RuntimeImage) : Prop :=
  hook.codeTarget = some image.token ∧
    ∀ l ∈ hook.record.listeners, ∀ token ∈ l.binding.owner, token = image.token

omit [DecidableEq γ] in
theorem imageMatches_other {image other : RuntimeImage} (hne : image.id ≠ other.id) :
    imageMatches other.token image.token = false := by
  rw [imageMatches, RuntimeImage.token, RuntimeImage.token, beq_false_of_ne hne, Bool.false_and]

omit [DecidableEq γ] in
theorem imageMatches_self (image : RuntimeImage) : imageMatches image.token image.token = true := by
  simp only [imageMatches, beq_self_eq_true, Bool.or_true, Bool.and_self]

/-- The turn for another image matches nothing. -/
theorem turn_other {image other : RuntimeImage} (generation : γ) (howned : hook.OwnedBy image)
    (hne : image.id ≠ other.id) :
    (hook.imageMatch generation other.token).matchesRecord = false ∧
      ∀ l ∈ hook.record.listeners,
        (hook.imageMatch generation other.token).stale l.binding = false := by
  obtain ⟨htarget, hlisteners⟩ := howned
  constructor
  · simp only [imageMatch, htarget, Option.any_some, imageMatches_other hne, Bool.and_false]
  · intro l hl
    cases howner : l.binding.owner with
    | none => simp only [imageMatch, howner, Option.any_none, Bool.and_false]
    | some token =>
      have htoken : token = image.token := hlisteners l hl token howner
      simp only [imageMatch, howner, htoken, Option.any_some, imageMatches_other hne,
        Bool.and_false]

theorem pass_other {modules : List ModuleImage} {image other : RuntimeImage}
    (howned : hook.OwnedBy image) (hne : image.id ≠ other.id) :
    pass modules generation hook other = hook := by
  obtain ⟨hrecord, hlisteners⟩ := turn_other generation howned hne
  unfold pass
  split
  · exact invalidate_unmatched rfl hrecord hlisteners
  · unfold retireImage
    have hfound : (hook.turn (hook.imageMatch generation other.token)).2 = false := by
      unfold turn
      split
      · exact hrecord
      · exact any_eq_false.mpr fun l hl => Bool.eq_false_iff.mp (hlisteners l hl)
    rw [hfound]
    split
    · rfl
    · rfl

theorem pass_owned {modules : List ModuleImage} {image other : RuntimeImage}
    (howned : hook.OwnedBy image) : (pass modules generation hook other).OwnedBy image := by
  obtain ⟨htarget, hlisteners⟩ := howned
  unfold pass
  split
  · refine ⟨htarget, fun l hl => ?_⟩
    by_cases hretired : hook.record.state = .retired
    · rw [invalidate_retired hretired] at hl
      exact hlisteners l hl
    · rw [invalidate_listeners rfl hretired] at hl
      exact hlisteners l (turn_listeners l hl)
  · unfold retireImage
    split
    · exact ⟨htarget, hlisteners⟩
    dsimp only
    split
    · exact ⟨htarget, fun l hl => absurd hl not_mem_nil⟩
    · exact ⟨htarget, hlisteners⟩

/-- Of all the turns only the one for the hook's own image counts. -/
theorem foldl_pass {modules : List ModuleImage} {image : RuntimeImage}
    {affected : List RuntimeImage} (hids : (affected.map RuntimeImage.id).Nodup)
    (hunique : ∀ other ∈ affected, other.id = image.id → other = image)
    (howned : hook.OwnedBy image) :
    affected.foldl (pass modules generation) hook =
      if image ∈ affected then pass modules generation hook image else hook := by
  induction affected generalizing hook with
  | nil => rfl
  | cons first rest ih =>
    obtain ⟨hfirst, hrest⟩ := nodup_cons.mp hids
    have hunique' : ∀ other ∈ rest, other.id = image.id → other = image :=
      fun other hother => hunique other (mem_cons_of_mem first hother)
    rw [foldl_cons, ih hrest hunique' (pass_owned howned)]
    by_cases hid : first.id = image.id
    · obtain rfl : first = image := hunique first mem_cons_self hid
      have hnot : first ∉ rest := fun hmem => hfirst (mem_map_of_mem hmem)
      rw [if_neg hnot, if_pos mem_cons_self]
    · have hne : image ≠ first := fun h => hid (congrArg RuntimeImage.id h.symm)
      rw [pass_other howned (Ne.symm hid)]
      simp only [mem_cons, hne, false_or]

omit [DecidableEq γ] in
theorem invalidateAll_fst (invalidation : RuntimeHook γ → Invalidation (ListenerOwner γ))
    (hooks : List (RuntimeHook γ)) (status : Result Unit) :
    (invalidateAll invalidation hooks status).1 =
      hooks.map fun hook => (hook.invalidate (invalidation hook)).1 := by
  induction hooks generalizing status with
  | nil => rfl
  | cons hook rest ih =>
    rw [invalidateAll, map_cons]
    exact congrArg _ (ih _)

/-- What the drain of the affected images does to each hook. -/
theorem drainImageHooks_fst {modules : List ModuleImage} {affected : List RuntimeImage}
    (hids : ∀ image ∈ affected, image.id ≠ 0) (hooks : List (RuntimeHook γ))
    (status : Result Unit) :
    (drainImageHooks (drain generation) modules affected (hooks, status)).1 =
      hooks.map fun hook => affected.foldl (pass modules generation) hook := by
  induction affected generalizing hooks status with
  | nil => exact (map_id' hooks).symm
  | cons image rest ih =>
    obtain ⟨hid, hrest⟩ := forall_mem_cons.mp hids
    have hturn : ∀ status', (drainImageHooks (drain generation) modules rest
        (hooks.map fun hook => pass modules generation hook image, status')).1 =
        hooks.map fun hook => (image :: rest).foldl (pass modules generation) hook := by
      intro status'
      rw [ih hrest, map_map]
      rfl
    rw [drainImageHooks]
    by_cases hmapped : mappingStillPresent modules image = true
    · simp only [hmapped, if_true, drain, if_neg hid, invalidateAll_fst]
      simp only [pass, hmapped, if_true, RuntimeImage.token] at hturn ⊢
      exact hturn _
    · simp only [hmapped, Bool.false_eq_true, if_false, drain, if_neg hid]
      simp only [pass, hmapped, Bool.false_eq_true, if_false, RuntimeImage.token] at hturn ⊢
      exact hturn _

end Turn
end RuntimeHook

/-! ## Closing admission -/

section Admission

theorem mem_setLifecycle {set : RuntimeImageSet} {lifecycle : RuntimeImageLifecycleState}
    {token : ImageToken} {image : RuntimeImage}
    (h : image ∈ (set.setLifecycle lifecycle token).images) :
    image ∈ set.images ∨ image.lifecycle = lifecycle := by
  unfold RuntimeImageSet.setLifecycle at h
  dsimp only at h
  generalize set.images = images at h ⊢
  induction images with
  | nil => exact absurd h not_mem_nil
  | cons first rest ih =>
    rw [alter] at h
    split at h
    · rcases mem_cons.mp h with rfl | hrest
      · exact .inr rfl
      · exact .inl (mem_cons_of_mem first hrest)
    · rcases mem_cons.mp h with rfl | hrest
      · exact .inl mem_cons_self
      · exact (ih hrest).imp (mem_cons_of_mem first) id

theorem setLifecycle_tokens {set : RuntimeImageSet} {lifecycle : RuntimeImageLifecycleState}
    {token : ImageToken} :
    (set.setLifecycle lifecycle token).images.map RuntimeImage.token =
      set.images.map RuntimeImage.token := by
  unfold RuntimeImageSet.setLifecycle
  dsimp only
  induction set.images with
  | nil => rfl
  | cons first rest ih =>
    rw [alter]
    split
    · rfl
    · rw [map_cons, map_cons, ih]

/-- Admission closes for all the affected images, and no image of the set is retired by that. -/
theorem drainImages_closes {set : RuntimeImageSet} {affected : List RuntimeImage}
    (hadmitted : ∀ image ∈ set.images, image.lifecycle ≠ .retired)
    (hmem : ∀ image ∈ affected, image.token ∈ set.images.map RuntimeImage.token) :
    (drainImages set affected).2 = true ∧
      ∀ image ∈ (drainImages set affected).1.images, image.lifecycle ≠ .retired := by
  induction affected generalizing set with
  | nil => exact ⟨rfl, hadmitted⟩
  | cons image rest ih =>
    obtain ⟨hfirst, hrest⟩ := forall_mem_cons.mp hmem
    have hdrain : set.beginDrain image.token = (set.setLifecycle .draining image.token, true) := by
      unfold RuntimeImageSet.beginDrain RuntimeImageSet.findToken
      split
      · next hnone =>
        obtain ⟨found, hfound, htoken⟩ := mem_map.mp hfirst
        exact absurd (beq_iff_eq.mpr htoken) (List.find?_eq_none.mp hnone found hfound)
      · next found hfound =>
        rw [if_neg (hadmitted found (mem_of_find?_eq_some hfound))]
    have hadmitted' : ∀ other ∈ (set.setLifecycle .draining image.token).images,
        other.lifecycle ≠ .retired := by
      intro other hother
      rcases mem_setLifecycle hother with hold | hdraining
      · exact hadmitted other hold
      · rw [hdraining]
        exact nofun
    rw [drainImages, hdrain]
    refine ih hadmitted' fun other hother => ?_
    rw [setLifecycle_tokens]
    exact hrest other hother

end Admission

/-! ## The transition -/

section Transition
variable {γ : Type} [DecidableEq γ] {generation : γ} {group : RuntimeImageState}
  {staged : RuntimeImageSet} {modules : List ModuleImage} {hooks : List (RuntimeHook γ)}
  {invalidateEntireRuntime : Bool} {image : RuntimeImage} {hook : RuntimeHook γ}

theorem PublishedSet.closes (h : PublishedSet group.imageSet) (staged : RuntimeImageSet)
    (invalidateEntireRuntime : Bool) :
    let drained := drainImages group.imageSet
      (affectedImages group.imageSet staged invalidateEntireRuntime)
    drained.2 = true ∧ ∀ image ∈ drained.1.images, image.lifecycle ≠ .retired :=
  drainImages_closes h.admitted fun _ himage =>
    mem_map_of_mem (mem_of_mem_filter himage)

/-- Whatever the drain reports, the transition leaves the hooks as it did. -/
theorem transition_hooks {η : Type} (drain : HookDrain η) (hooks : η)
    (h : PublishedSet group.imageSet) :
    (transitionRuntimeImages drain group hooks staged modules invalidateEntireRuntime).2.1 =
      (if invalidateEntireRuntime then
        drainRuntime drain modules
          (affectedImages group.imageSet staged invalidateEntireRuntime) hooks
      else drainImageHooks drain modules
        (affectedImages group.imageSet staged invalidateEntireRuntime) (hooks, .ok ())).1 := by
  have hdrained := (h.closes staged invalidateEntireRuntime).1
  unfold transitionRuntimeImages
  dsimp only
  split
  · next hfailed =>
    rw [hfailed] at hdrained
    exact absurd hdrained Bool.false_ne_true
  · split
    · next hstatus => rw [hstatus]
    · next hstatus => rw [hstatus]

theorem affectedImages_entire (current staged : RuntimeImageSet) :
    affectedImages current staged true = current.images := by
  simp only [affectedImages, Bool.not_true, Bool.false_and, Bool.not_false, filter_true]

omit [DecidableEq γ] in
theorem RuntimeHook.LiesIn.owned (h : hook.LiesIn generation image) : hook.OwnedBy image :=
  ⟨h.codeTarget, fun l hl => (h.listeners l hl).2⟩

/-- The generation of a hook that lies in an image matches all of it. -/
theorem RuntimeHook.LiesIn.emptied (h : hook.LiesIn generation image) :
    (hook.turn (hook.runtimeMatch generation)).1.listeners = [] := by
  unfold turn
  split
  · next hnone => exact hnone
  · refine filter_eq_nil_iff.mpr fun l hl => ?_
    have hstale : (hook.runtimeMatch generation).stale l.binding = true :=
      decide_eq_true (h.listeners l hl).1
    rw [hstale]
    exact Bool.false_ne_true

theorem RuntimeHook.LiesIn.matchesImage (h : hook.LiesIn generation image)
    (hnone : hook.record.listeners = []) :
    (hook.imageMatch generation image.token).matchesRecord = true := by
  simp only [imageMatch, h.record hnone, h.codeTarget, Option.any_some,
    imageMatches_self, decide_true, Bool.and_self]

omit [DecidableEq γ] in
/-- A hook lies in one image of a set. -/
theorem RuntimeHook.LiesIn.unique {images : List RuntimeImage} {other : RuntimeImage}
    (h : hook.LiesIn generation image) (hids : (images.map RuntimeImage.id).Nodup)
    (himage : image ∈ images) (hother : other ∈ images)
    (htarget : hook.codeTarget = some other.token) : other = image := by
  have htoken : other.token = image.token := Option.some.inj (htarget.symm.trans h.codeTarget)
  exact inj_on_of_nodup_map hids hother himage (congrArg Prod.fst htoken)

/-- Image by image, a hook is retired or unhooked as its own image asks. -/
theorem handled_pass {images affected : List RuntimeImage}
    (hids : (images.map RuntimeImage.id).Nodup) (haffected : affected.Sublist images)
    (himage : image ∈ images) (h : hook.LiesIn generation image) :
    Handled modules images affected hook
      (affected.foldl (RuntimeHook.pass modules generation) hook) := by
  intro other hother htarget
  obtain rfl := h.unique hids himage hother htarget
  have hunique : ∀ another ∈ affected, another.id = other.id → another = other :=
    fun another hmem hid => inj_on_of_nodup_map hids (haffected.subset hmem) hother hid
  rw [foldl_pass (hids.sublist (haffected.map RuntimeImage.id)) hunique h.owned]
  split
  · unfold RuntimeHook.pass
    constructor
    · intro hgone
      rw [hgone, if_neg Bool.false_ne_true]
      exact retireImage_logical
    · intro hmapped _ hopen hafter
      rw [if_pos hmapped] at hafter ⊢
      exact invalidate_begins rfl h.matchesImage hopen hafter
  · next hnot => exact ⟨fun _ => ⟨rfl, .inl rfl⟩, fun _ hmem => absurd hmem hnot⟩

/-- A whole runtime without a mapping left only has its hooks retired. -/
theorem handled_retire {images affected : List RuntimeImage}
    (hgone : ∀ image ∈ images, mappingStillPresent modules image = false) :
    Handled modules images affected hook (hook.retireRuntime generation) := by
  intro image himage _
  refine ⟨fun _ => retireRuntime_logical, fun hmapped => ?_⟩
  exact absurd hmapped (Bool.eq_false_iff.mp (hgone image himage))

/-- A whole runtime with a mapping left has its hooks unhooked, which is right for a hook of that
mapping, and for another one only when no unhook can begin. -/
theorem handled_invalidate_iff {images : List RuntimeImage}
    (hids : (images.map RuntimeImage.id).Nodup) (himage : image ∈ images)
    (h : hook.LiesIn generation image) :
    Handled modules images images hook (hook.invalidate (hook.runtimeMatch generation)).1 ↔
      (mappingStillPresent modules image = false → hook.Closed) := by
  have hrecord : hook.record.listeners = [] →
      (hook.runtimeMatch generation).matchesRecord = true := fun hnone =>
    decide_eq_true (h.record hnone)
  constructor
  · intro hhandled hgone
    by_contra hopen
    have hretired : hook.record.state ≠ .retired := fun hstate => hopen (.inr (.inr hstate))
    have hafter : (hook.invalidate (hook.runtimeMatch generation)).1.record.listeners = [] := by
      rw [invalidate_listeners rfl hretired, h.emptied]
    obtain ⟨rest, hcalls⟩ := invalidate_begins rfl hrecord hopen hafter
    obtain ⟨hsame, -⟩ := (hhandled image himage h.codeTarget).1 hgone
    rw [hcalls] at hsame
    exact absurd (append_right_eq_self.mp hsame) (cons_ne_nil _ _)
  · intro hclosed other hother htarget
    obtain rfl := h.unique hids himage hother htarget
    constructor
    · intro hgone
      have hskip : (hook.runtimeMatch generation).skipUnhooked = false := rfl
      obtain ⟨hcalls, hstate⟩ := invalidate_closed hskip (hclosed hgone)
      exact ⟨hcalls, .inl hstate⟩
    · intro _ _ hopen hafter
      exact invalidate_begins rfl hrecord hopen hafter

/-! ## Every transition -/

/-- The choice made once for a whole runtime is the right one for this hook. -/
def RightForAll (modules : List ModuleImage) (images : List RuntimeImage) (hook : RuntimeHook γ) :
    Prop :=
  (∃ image ∈ images, mappingStillPresent modules image = true) →
    ∀ image ∈ images, hook.codeTarget = some image.token →
      mappingStillPresent modules image = false → hook.Closed

theorem handled_invalidateAll_iff {images : List RuntimeImage}
    (hids : (images.map RuntimeImage.id).Nodup)
    (hmapped : ∃ image ∈ images, mappingStillPresent modules image = true)
    (hhooks : ∀ hook ∈ hooks, ∃ image ∈ images, hook.LiesIn generation image) :
    (∀ hook ∈ hooks, Handled modules images images hook
        (hook.invalidate (hook.runtimeMatch generation)).1) ↔
      ∀ hook ∈ hooks, RightForAll modules images hook := by
  constructor
  · intro hhandled hook hhook _ image himage htarget
    obtain ⟨own, hown, hlies⟩ := hhooks hook hhook
    obtain rfl := hlies.unique hids hown himage htarget
    exact (handled_invalidate_iff hids himage hlies).mp (hhandled hook hhook)
  · intro hright hook hhook
    obtain ⟨image, himage, hlies⟩ := hhooks hook hhook
    refine (handled_invalidate_iff hids himage hlies).mpr fun hgone => ?_
    exact hright hook hhook hmapped image himage hlies.codeTarget hgone

/-- A transition asks nothing of the physical side of a hook whose image is gone, and begins the
unhook of the others that it has to, exactly when it goes image by image, or no mapping is left, or
the hooks of vanished images are closed. -/
theorem unmapped_hooks_only_retired_iff (hpublished : PublishedSet group.imageSet)
    (hhooks : ∀ hook ∈ hooks, ∃ image ∈ group.imageSet.images, hook.LiesIn generation image) :
    List.Forall₂
        (Handled modules group.imageSet.images
          (affectedImages group.imageSet staged invalidateEntireRuntime))
        hooks
        (transitionRuntimeImages (drain generation) group hooks staged modules
          invalidateEntireRuntime).2.1 ↔
      (invalidateEntireRuntime = true →
        ∀ hook ∈ hooks, RightForAll modules group.imageSet.images hook) := by
  have hids := hpublished.numbered.ids.nodup
  rw [transition_hooks _ _ hpublished]
  cases invalidateEntireRuntime with
  | false =>
    have hnonzero : ∀ image ∈ affectedImages group.imageSet staged false, image.id ≠ 0 :=
      fun image himage => toNat_pos_iff.mp
        (hpublished.numbered.ids.range image (mem_of_mem_filter himage)).1
    rw [if_neg Bool.false_ne_true, drainImageHooks_fst hnonzero]
    rw [forall₂_map_right_iff, forall₂_same]
    refine ⟨fun _ h => absurd h Bool.false_ne_true, fun _ hook hhook => ?_⟩
    obtain ⟨image, himage, hlies⟩ := hhooks hook hhook
    exact handled_pass hids filter_sublist himage hlies
  | true =>
    rw [if_pos rfl, affectedImages_entire, drainRuntime]
    simp only [forall_const]
    split
    · next hall =>
      obtain ⟨-, hall⟩ := Bool.and_eq_true_iff.mp hall
      have hgone : ∀ image ∈ group.imageSet.images,
          mappingStillPresent modules image = false := fun image himage => by
        simpa only [Bool.not_eq_true'] using all_eq_true.mp hall image himage
      have hretired : List.Forall₂ (Handled modules group.imageSet.images group.imageSet.images)
          hooks (hooks.map fun hook => hook.retireRuntime generation) := by
        rw [forall₂_map_right_iff, forall₂_same]
        exact fun hook _ => handled_retire hgone
      refine iff_of_true hretired fun hook _ hmapped => ?_
      obtain ⟨image, himage, hpresent⟩ := hmapped
      exact absurd hpresent (Bool.eq_false_iff.mp (hgone image himage))
    · next hnot =>
      have hinvalidated : ((drain generation).invalidateRuntimeHooks hooks).1 =
          hooks.map fun hook => (hook.invalidate (hook.runtimeMatch generation)).1 :=
        invalidateAll_fst _ hooks _
      rw [hinvalidated, forall₂_map_right_iff, forall₂_same]
      cases hooks with
      | nil => simp only [not_mem_nil, false_implies, implies_true]
      | cons hook rest =>
        refine handled_invalidateAll_iff hids ?_ hhooks
        by_contra hnone
        refine hnot (Bool.and_eq_true_iff.mpr ⟨?_, all_eq_true.mpr fun image himage => ?_⟩)
        · obtain ⟨image, himage, -⟩ := hhooks hook mem_cons_self
          rw [Bool.not_eq_true', isEmpty_eq_false_iff]
          exact ne_nil_of_mem himage
        · rw [Bool.not_eq_true']
          exact Bool.eq_false_iff.mpr fun hpresent => hnone ⟨image, himage, hpresent⟩

end Transition

/-! ## A root that goes while its unit stays -/

/-- An installed hook with one listener in the image with this token. -/
def hookIn (token : ImageToken) (target : Address) : RuntimeHook Unit where
  record := {
    target := target
    hasMethod := true
    sharedCodeOptIn := false
    state := .installed
    active := true
    inFlight := 0
    backendInstalled := true
    entryReady := true
    exceptionBridgeConsumer := false
    boundToCodeTarget := true
    vmAdapterRetained := false
    nextListenerId := 2
    nextRegistrationOrder := 2
    listenerHandles := 1
    listeners := [⟨1, 0, 1, true, ⟨(), some token⟩⟩] }
  published := none
  generation := ()
  codeTarget := some token
  outcome := ⟨true, true, true⟩
  calls := []

def appHooks : List (RuntimeHook Unit) := [hookIn (1, 1) 0x1000, hookIn (2, 2) 0x4000]

def appModule : ModuleImage := mappedModule "app" 0x1000
def partModule : ModuleImage := mappedModule "part" 0x4000

theorem liveImages_published : PublishedSet (liveImages 1) := by
  refine ⟨liveImages_numbered 1, fun image himage => ?_⟩
  obtain ⟨bound, -, rfl⟩ := mem_map.mp himage
  exact nofun

theorem hookIn_lies {image : RuntimeImage} {token : ImageToken} (htoken : token = image.token)
    (target : Address) : (hookIn token target).LiesIn () image where
  codeTarget := congrArg some htoken
  listeners := by
    intro listener hlistener
    obtain rfl := mem_singleton.mp hlistener
    exact ⟨rfl, fun other hother => (Option.some.inj hother).symm.trans htoken⟩
  record := fun h => absurd h (cons_ne_nil _ _)

theorem appHooks_lie : ∀ hook ∈ appHooks, ∃ image ∈ (liveImages 1).images,
    hook.LiesIn () image := by
  intro hook hhook
  rcases mem_pair.mp hhook with rfl | rfl
  · refine ⟨_, mem_cons_self, hookIn_lies ?_ 0x1000⟩
    rfl
  · refine ⟨_, mem_cons_of_mem _ mem_cons_self, hookIn_lies ?_ 0x4000⟩
    rfl

/-- The whole runtime goes, its root is unmapped already and the unit is not: the root's hook is
unhooked through the host and its RET sites are rewritten. -/
theorem vanished_root_unhooked :
    PublishedSet (liveGroup 1).imageSet ∧
      (∀ hook ∈ appHooks, ∃ image ∈ (liveGroup 1).imageSet.images, hook.LiesIn () image) ∧
      (let after := (transitionRuntimeImages (drain ()) (liveGroup 1) appHooks {}
        [partModule] true).2.1
      after.map calls = [[.beginUnhook, .hostUnhook, .restoreReturns],
          [.beginUnhook, .hostUnhook, .restoreReturns]] ∧
        ¬ List.Forall₂ (Handled [partModule] (liveGroup 1).imageSet.images
          (affectedImages (liveGroup 1).imageSet {} true)) appHooks after) := by
  refine ⟨liveImages_published, appHooks_lie, by decide +kernel, fun hall => ?_⟩
  have hfirst := hall.get (show 0 < appHooks.length by decide) (by decide +kernel)
  have hlogical := (hfirst _ mem_cons_self rfl).1 (by decide +kernel)
  exact absurd hlogical.1 (by decide +kernel)

/-- The same state goes image by image: the root's hook is retired, the unit's unhooked. -/
theorem unmapped_hooks_only_retired_image_by_image :
    let after := (transitionRuntimeImages (drain ()) (liveGroup 1) appHooks {}
      [partModule] false).2.1
    after.map calls = [[], [.beginUnhook, .hostUnhook, .restoreReturns]] ∧
      List.Forall₂ (Handled [partModule] (liveGroup 1).imageSet.images
        (affectedImages (liveGroup 1).imageSet {} false)) appHooks after := by
  intro after
  refine ⟨by decide +kernel, ?_⟩
  exact (unmapped_hooks_only_retired_iff liveImages_published appHooks_lie).mpr
    fun h => absurd h Bool.false_ne_true

end DartPlant
