import DartPlant.Interceptor.CallbackDispatch
import DartPlant.Lib.StackTally

/-! # In-flight accounting

A frame pins its hook record from `BeginInvocation` to its release, and a listener once for every
time it stands among the frame's entered listeners.  `in_flight_accounted` is that the counters are
these numbers in every run of any number of threads, whatever happens in between.

Every operation either pushes a frame with its pins, drops listeners from the frame on top, or
releases that frame; the registry changes no counter, and numbers a new listener freshly.
-/

namespace DartPlant
open Runs StackTally Function DispatchFrame List Nat

variable {β H T : Type} [DecidableEq H]

/-- What a frame adds to the counter of a hook. -/
def DispatchFrame.pins (hook : H) (frame : DispatchFrame β H) : ℕ :=
  if frame.hook = some hook then 1 else 0

/-- What a frame adds to the counter of a listener of the hook. -/
def DispatchFrame.entries (hook : H) (id : ℕ) (frame : DispatchFrame β H) : ℕ :=
  if frame.hook = some hook then (frame.enteredListeners.map ListenerRecord.id).count id else 0

variable [Fintype T]

/-- The counters are the pins of the frames that were begun and not released. -/
structure InFlightAccounted (world : DispatchWorld β H T) : Prop where
  hook : ∀ hook, (world.hooks hook).record.inFlight = tally (pins hook) world.stack
  listener : ∀ hook id,
    world.listenerInFlight hook id = tally (entries hook id) world.stack
  idle : (∀ thread, world.stack thread = []) → ∀ hook,
    (world.hooks hook).record.inFlight = 0 ∧ ∀ id, world.listenerInFlight hook id = 0

/-- The world before any dispatch, with the listeners numbered below the next number. -/
structure DispatchIdle (world : DispatchWorld β H T) : Prop where
  stack : ∀ thread, world.stack thread = []
  hook : ∀ hook, (world.hooks hook).record.inFlight = 0
  listener : ∀ hook id, world.listenerInFlight hook id = 0
  numbered : ∀ hook, ∀ listener ∈ (world.hooks hook).record.listeners,
    listener.id < (world.hooks hook).record.nextListenerId

/-- The invariant: the counters, and no frame knows a listener that is still to be numbered. -/
structure DispatchCounts (world : DispatchWorld β H T) : Prop where
  hook : ∀ hook, (world.hooks hook).record.inFlight = tally (pins hook) world.stack
  listener : ∀ hook id,
    world.listenerInFlight hook id = tally (entries hook id) world.stack
  numbered : ∀ hook, ∀ listener ∈ (world.hooks hook).record.listeners,
    listener.id < (world.hooks hook).record.nextListenerId
  entered : ∀ thread, ∀ frame ∈ world.stack thread, ∀ hook, frame.hook = some hook →
    ∀ listener ∈ frame.enteredListeners, listener.id < (world.hooks hook).record.nextListenerId

section Invariant
variable {world after : DispatchWorld β H T}

theorem DispatchIdle.counts (h : DispatchIdle world) : DispatchCounts world where
  hook := fun hook => (h.hook hook).trans (tally_empty h.stack).symm
  listener := fun hook id => (h.listener hook id).trans (tally_empty h.stack).symm
  numbered := h.numbered
  entered := by
    intro thread frame hframe
    rw [h.stack thread] at hframe
    cases hframe

theorem DispatchCounts.accounted (h : DispatchCounts world) : InFlightAccounted world where
  hook := h.hook
  listener := h.listener
  idle := fun hempty hook => ⟨(h.hook hook).trans (tally_empty hempty),
    fun id => (h.listener hook id).trans (tally_empty hempty)⟩

/-! ## The registry -/

/-- What a registry operation may do to a record, as far as the counters see it. -/
structure RegistryFrame (before after : HookRecord β) : Prop where
  inFlight : after.inFlight = before.inFlight
  next : before.nextListenerId ≤ after.nextListenerId
  listeners : ∀ listener ∈ after.listeners,
    listener ∈ before.listeners ∨ listener.id < after.nextListenerId

theorem RegistryFrame.refl (record : HookRecord β) : RegistryFrame record record :=
  ⟨rfl, le_refl _, fun _ hmem => Or.inl hmem⟩

theorem RegistryFrame.trans {first second third : HookRecord β} (h : RegistryFrame first second)
    (h' : RegistryFrame second third) : RegistryFrame first third where
  inFlight := h'.inFlight.trans h.inFlight
  next := h.next.trans h'.next
  listeners := by
    intro listener hmem
    rcases h'.listeners listener hmem with hold | hlt
    · rcases h.listeners listener hold with hfirst | hlt
      · exact Or.inl hfirst
      · exact Or.inr (Nat.lt_of_lt_of_le hlt h'.next)
    · exact Or.inr hlt

theorem finishReturns_registryFrame (record : HookRecord β) (outcome : UnhookOutcome) :
    RegistryFrame record (finishReturns record outcome).1 := by
  unfold finishReturns
  dsimp only
  split
  · exact ⟨rfl, le_refl _, fun _ hmem => Or.inl hmem⟩
  · exact ⟨rfl, le_refl _, fun _ hmem => Or.inl hmem⟩

theorem finishUnhookLocked_registryFrame (record : HookRecord β)
    (published : Option PublishedHostHook) (outcome : UnhookOutcome) :
    RegistryFrame record (finishUnhookLocked record published outcome).1 := by
  have hreleased : ∀ backendInstalled, RegistryFrame record { record with backendInstalled } :=
    fun _ => ⟨rfl, le_refl _, fun _ hmem => Or.inl hmem⟩
  unfold finishUnhookLocked
  split
  · exact finishReturns_registryFrame record outcome
  split
  next gated =>
    dsimp only
    split
    · exact .refl record
    split
    · exact .refl record
    split
    · exact ⟨rfl, le_refl _, fun _ hmem => Or.inl hmem⟩
    · exact (hreleased _).trans (finishReturns_registryFrame _ outcome)
  next =>
    split
    · exact ⟨rfl, le_refl _, fun _ hmem => Or.inl hmem⟩
    · exact (hreleased _).trans (finishReturns_registryFrame _ outcome)

theorem unhookRecordLocked_registryFrame (record : HookRecord β)
    (published : Option PublishedHostHook) (outcome : UnhookOutcome) :
    RegistryFrame record (unhookRecordLocked record published outcome).1 := by
  unfold unhookRecordLocked
  split
  · exact .refl record
  next drained gatedDrain hstart =>
    have hdrained : RegistryFrame record drained := by
      unfold startUnhook at hstart
      split at hstart
      · cases hstart
      split at hstart
      · cases hstart
      split at hstart
      · cases hstart
      cases hstart
      exact ⟨rfl, le_refl _, fun _ hmem => by cases hmem⟩
    dsimp only
    split
    · exact hdrained
    · exact hdrained.trans (finishUnhookLocked_registryFrame drained _ outcome)

theorem filter_registryFrame (record : HookRecord β) (keep : ListenerRecord β → Bool) :
    RegistryFrame record { record with listeners := record.listeners.filter keep } :=
  ⟨rfl, le_refl _, fun _ hmem => Or.inl (mem_of_mem_filter hmem)⟩

theorem invalidateHook_registryFrame (record : HookRecord β) (published : Option PublishedHostHook)
    (invalidation : Invalidation β) (outcome : UnhookOutcome) :
    RegistryFrame record (invalidateHook record published invalidation outcome).1 := by
  unfold invalidateHook
  split
  · exact .refl record
  · have hcleared : RegistryFrame record
        (if record.listeners = [] then (record, invalidation.matchesRecord)
          else removeMatchingListeners record invalidation.stale).1 := by
      split
      · exact .refl record
      · exact filter_registryFrame record _
    generalize (if record.listeners = [] then (record, invalidation.matchesRecord)
      else removeMatchingListeners record invalidation.stale) = cleared at hcleared
    dsimp only
    split
    · exact hcleared
    · exact hcleared.trans (unhookRecordLocked_registryFrame _ published outcome)

theorem addCallbackListener_registryFrame (record : HookRecord β) (request : AddRequest β) :
    RegistryFrame record (addCallbackListenerForMethod record request).1 := by
  unfold addCallbackListenerForMethod
  split
  · exact .refl record
  unfold addCallbackListener
  split
  · exact .refl record
  split
  · exact .refl record
  refine ⟨rfl, le_succ _, fun listener hmem => ?_⟩
  have hperm := insertListener_perm (makeListener record request).1 (makeListener record request).2
  rcases mem_cons.mp (hperm.mem_iff.mp hmem) with rfl | hold
  · exact Or.inr (lt_succ_self _)
  · exact Or.inl hold

/-- The registry operations that are not an invocation change no counter of the record. -/
theorem applyListenerOp_registryFrame (registry : ListenerWorld β) (op : ListenerOp β)
    (henter : op ≠ .enter) (hexit : op ≠ .exit) :
    RegistryFrame registry.hook (applyListenerOp registry op).hook := by
  cases op with
  | add request =>
    have hadd := addCallbackListener_registryFrame registry.hook request
    rw [applyListenerOp]
    cases hresult : addCallbackListenerForMethod registry.hook request with
    | mk record result =>
      rw [hresult] at hadd
      cases result with
      | ok id => exact hadd
      | error failure => exact hadd
  | erase id => exact filter_registryFrame registry.hook _
  | removeHook outcome =>
    rw [applyListenerOp]
    split
    · exact .refl registry.hook
    · exact unhookRecordLocked_registryFrame registry.hook registry.published outcome
  | invalidate invalidation outcome =>
    exact invalidateHook_registryFrame registry.hook registry.published invalidation outcome
  | acquire => exact .refl registry.hook
  | release => exact .refl registry.hook
  | enter => exact absurd rfl henter
  | exit => exact absurd rfl hexit
  | finish outcome =>
    rw [applyListenerOp]
    split
    · exact .refl registry.hook
    split
    · exact .refl registry.hook
    · exact finishUnhookLocked_registryFrame registry.hook registry.published outcome

end Invariant

/-! ## The frame on top -/

section Retops
omit [Fintype T] [DecidableEq H]
variable [DecidableEq T] (world : DispatchWorld β H T) (thread : T)

/-- Nothing changes but the frame on top of a thread's stack, in what it does not pin. -/
inductive Retopped : DispatchWorld β H T → Prop
  | same : Retopped world
  | top {frame top : DispatchFrame β H} {rest : List (DispatchFrame β H)}
      (hstack : world.stack thread = top :: rest) (hhook : frame.hook = top.hook)
      (hentered : frame.enteredListeners = top.enteredListeners) :
      Retopped (world.setStack thread (frame :: rest))

theorem enterCallback_retops : Retopped world thread (world.enterCallback thread) := by
  unfold DispatchWorld.enterCallback
  split
  · exact .same
  next frame rest hstack =>
    split
    · split
      · exact .top hstack rfl rfl
      · exact .same
    · exact .same

theorem beginFinish_retops : Retopped world thread (world.beginFinish thread) := by
  unfold DispatchWorld.beginFinish
  split
  · exact .same
  next frame rest hstack => exact .top hstack rfl rfl

theorem beginReturn_retops (payload : Address) (returned : EntryContext) :
    Retopped world thread (world.beginReturn thread payload returned).1 := by
  unfold DispatchWorld.beginReturn
  split
  · exact .same
  next frame rest hstack =>
    split
    · exact .same
    split
    · exact .top hstack rfl rfl
    · exact beginFinish_retops world thread

theorem prepareInvokeOriginal_retops (nativeFrameSp : Address) :
    Retopped world thread (world.prepareInvokeOriginal thread nativeFrameSp) := by
  unfold DispatchWorld.prepareInvokeOriginal
  split
  · exact .same
  next frame rest hstack =>
    split
    · exact .same
    · exact .top hstack rfl rfl

theorem beginUnwind_retops (targetSpreg targetFp : Address) :
    Retopped world thread (world.beginUnwind thread targetSpreg targetFp) := by
  unfold DispatchWorld.beginUnwind
  split
  · exact .same
  next frame rest hstack =>
    split
    · exact .same
    · exact .top hstack rfl rfl

end Retops

/-! ## Listener counters -/

section Listeners
omit [Fintype T]
variable {world : DispatchWorld β H T} {listeners : List (ListenerRecord β)}
  {hook other : H} {id : ℕ}

theorem setListenerInFlight_apply (count : ℕ) :
    (world.setListenerInFlight hook id count).listenerInFlight =
      update world.listenerInFlight hook
        (update (world.listenerInFlight hook) id count) := rfl

theorem enterListeners_frame (hook : H) (listeners : List (ListenerRecord β))
    (world : DispatchWorld β H T) :
    (DispatchWorld.enterListeners hook listeners world).hooks = world.hooks ∧
      (DispatchWorld.enterListeners hook listeners world).stack = world.stack := by
  induction listeners generalizing world with
  | nil => exact ⟨rfl, rfl⟩
  | cons listener listeners ih => exact ih _

theorem leaveListeners_frame (hook : H) (listeners : List (ListenerRecord β))
    (world : DispatchWorld β H T) :
    (DispatchWorld.leaveListeners hook listeners world).hooks = world.hooks ∧
      (DispatchWorld.leaveListeners hook listeners world).stack = world.stack := by
  induction listeners generalizing world with
  | nil => exact ⟨rfl, rfl⟩
  | cons listener listeners ih => exact ih _

theorem enterListeners_apply (hook other : H) (listeners : List (ListenerRecord β))
    (world : DispatchWorld β H T) (id : ℕ) :
    (DispatchWorld.enterListeners hook listeners world).listenerInFlight other id =
      world.listenerInFlight other id +
        if other = hook then (listeners.map ListenerRecord.id).count id else 0 := by
  induction listeners generalizing world with
  | nil => simp only [DispatchWorld.enterListeners, map_nil, count_nil, ite_self,
      add_zero]
  | cons listener listeners ih =>
    rw [DispatchWorld.enterListeners, ih, setListenerInFlight_apply]
    by_cases hother : other = hook
    · subst hother
      rw [update_self, map_cons, count_cons, if_pos rfl, if_pos rfl]
      by_cases hid : id = listener.id
      · subst hid
        rw [update_self, if_pos BEq.rfl]
        omega
      · rw [update_of_ne hid, if_neg (by simpa only [beq_iff_eq] using Ne.symm hid),
          add_zero]
    · rw [update_of_ne hother, if_neg hother, if_neg hother]

theorem leaveListeners_apply (hook other : H) (listeners : List (ListenerRecord β))
    (world : DispatchWorld β H T) (id : ℕ) :
    (DispatchWorld.leaveListeners hook listeners world).listenerInFlight other id =
      world.listenerInFlight other id -
        if other = hook then (listeners.map ListenerRecord.id).count id else 0 := by
  induction listeners generalizing world with
  | nil => simp only [DispatchWorld.leaveListeners, map_nil, count_nil, ite_self,
      Nat.sub_zero]
  | cons listener listeners ih =>
    rw [DispatchWorld.leaveListeners, ih, setListenerInFlight_apply]
    by_cases hother : other = hook
    · subst hother
      rw [update_self, map_cons, count_cons, if_pos rfl, if_pos rfl]
      by_cases hid : id = listener.id
      · subst hid
        rw [update_self, if_pos BEq.rfl]
        omega
      · rw [update_of_ne hid, if_neg (by simpa only [beq_iff_eq] using Ne.symm hid),
          add_zero]
    · rw [update_of_ne hother, if_neg hother, if_neg hother]

theorem leaveListeners_append (hook : H) (first second : List (ListenerRecord β))
    (world : DispatchWorld β H T) :
    DispatchWorld.leaveListeners hook second (DispatchWorld.leaveListeners hook first world) =
      DispatchWorld.leaveListeners hook (first ++ second) world := by
  induction first generalizing world with
  | nil => rfl
  | cons listener first ih => exact ih _

end Listeners

/-! ## Operations on the frame on top -/

section Top
variable {world : DispatchWorld β H T} {thread : T} {hook : H}
  {frame top : DispatchFrame β H} {rest : List (DispatchFrame β H)}
  {kept dropped : List (ListenerRecord β)}

theorem pins_of_hook {other : DispatchFrame β H} (h : frame.hook = other.hook) (hook : H) :
    frame.pins hook = other.pins hook := by
  unfold pins
  rw [h]

variable (h : DispatchCounts world)
include h

/-- The records of the hooks may change as long as their counters stay. -/
theorem DispatchCounts.setHook {entry : DispatchHook β}
    (hframe : RegistryFrame (world.hooks hook).record entry.record) :
    DispatchCounts (world.setHook hook entry) := by
  have hrecord : ∀ other, RegistryFrame (world.hooks other).record
      ((world.setHook hook entry).hooks other).record := by
    intro other
    show RegistryFrame _ (update world.hooks hook entry other).record
    by_cases hother : other = hook
    · subst hother
      rw [update_self]
      exact hframe
    · rw [update_of_ne hother]
      exact .refl _
  refine ⟨fun other => (hrecord other).inFlight.trans (h.hook other), h.listener, ?_, ?_⟩
  · intro other listener hmem
    rcases (hrecord other).listeners listener hmem with hold | hlt
    · exact Nat.lt_of_lt_of_le (h.numbered other listener hold) (hrecord other).next
    · exact hlt
  · intro thread frame hmem other hhook listener hlistener
    exact Nat.lt_of_lt_of_le (h.entered thread frame hmem other hhook listener hlistener)
      (hrecord other).next

theorem DispatchCounts.releaseEntrant (hook : H) : DispatchCounts (world.releaseEntrant hook) :=
  h.setHook (.refl _)

variable [DecidableEq T]

/-- The frame on top keeps some of its listeners and drops the others. -/
theorem DispatchCounts.trim (hstack : world.stack thread = top :: rest)
    (htop : top.hook = some hook) (hperm : top.enteredListeners.Perm (kept ++ dropped))
    (hhook : frame.hook = some hook) (hkept : frame.enteredListeners = kept) :
    DispatchCounts ((DispatchWorld.leaveListeners hook dropped world).setStack thread
      (frame :: rest)) := by
  obtain ⟨hhooks, hframes⟩ := leaveListeners_frame hook dropped world
  have hstacks : ((DispatchWorld.leaveListeners hook dropped world).setStack thread
      (frame :: rest)).stack = update world.stack thread (frame :: rest) := by
    rw [← hframes]
    rfl
  have hrecords : ((DispatchWorld.leaveListeners hook dropped world).setStack thread
      (frame :: rest)).hooks = world.hooks := hhooks
  refine ⟨fun other => ?_, fun other id => ?_, ?_, ?_⟩
  · have htally := tally_top (pins other) frame hstack
    rw [pins_of_hook (hhook.trans htop.symm) other] at htally
    rw [hstacks, hrecords, h.hook other]
    omega
  · have htally := tally_top (entries other id) frame hstack
    rw [hstacks]
    show (DispatchWorld.leaveListeners hook dropped world).listenerInFlight other id = _
    rw [leaveListeners_apply, h.listener other id]
    by_cases hother : other = hook
    · subst hother
      have hcount := (hperm.map ListenerRecord.id).count_eq id
      rw [map_append, count_append, ← hkept] at hcount
      simp only [entries, if_pos htop, if_pos hhook] at htally
      rw [if_pos rfl]
      omega
    · have hne : some hook ≠ some other := fun heq => hother (Option.some.inj heq).symm
      have htopZero : top.entries other id = 0 := if_neg (htop ▸ hne)
      have hframeZero : frame.entries other id = 0 := if_neg (hhook ▸ hne)
      rw [if_neg hother]
      omega
  · rw [hrecords]
    exact h.numbered
  · rw [hstacks, hrecords]
    intro other current hcurrent id hid listener hlistener
    by_cases hother : other = thread
    · subst hother
      rw [update_self] at hcurrent
      rcases mem_cons.mp hcurrent with rfl | hrest
      · have htopMem : listener ∈ top.enteredListeners :=
          hperm.mem_iff.mpr (mem_append_left _ (hkept ▸ hlistener))
        refine h.entered other top ?_ id (htop.trans (hhook.symm.trans hid)) listener htopMem
        rw [hstack]
        exact mem_cons_self
      · refine h.entered other current ?_ id hid listener hlistener
        rw [hstack]
        exact mem_cons_of_mem _ hrest
    · rw [update_of_ne hother] at hcurrent
      exact h.entered other current hcurrent id hid listener hlistener

/-- The frame on top changes in what it does not pin. -/
theorem DispatchCounts.retop (hstack : world.stack thread = top :: rest)
    (hhook : frame.hook = top.hook) (hentered : frame.enteredListeners = top.enteredListeners) :
    DispatchCounts (world.setStack thread (frame :: rest)) := by
  have hentries : ∀ other id, frame.entries other id = top.entries other id := fun other id => by
    unfold entries
    rw [hhook, hentered]
  refine ⟨fun other => ?_, fun other id => ?_, h.numbered, ?_⟩
  · have htally := tally_top (pins other) frame hstack
    rw [pins_of_hook hhook other] at htally
    exact (h.hook other).trans (Nat.add_right_cancel htally).symm
  · have htally := tally_top (entries other id) frame hstack
    rw [hentries other id] at htally
    exact (h.listener other id).trans (Nat.add_right_cancel htally).symm
  · intro other current hcurrent id hid listener hlistener
    have hcurrent : current ∈ update world.stack thread (frame :: rest) other := hcurrent
    by_cases hother : other = thread
    · subst hother
      rw [update_self] at hcurrent
      rcases mem_cons.mp hcurrent with rfl | hrest
      · refine h.entered other top ?_ id (hhook ▸ hid) listener (hentered ▸ hlistener)
        rw [hstack]
        exact mem_cons_self
      · refine h.entered other current ?_ id hid listener hlistener
        rw [hstack]
        exact mem_cons_of_mem _ hrest
    · rw [update_of_ne hother] at hcurrent
      exact h.entered other current hcurrent id hid listener hlistener

theorem DispatchCounts.retopped {after : DispatchWorld β H T}
    (hafter : Retopped world thread after) : DispatchCounts after := by
  cases hafter with
  | same => exact h
  | top hstack hhook hentered => exact h.retop hstack hhook hentered

/-- The frames that are left after the one on top were there before. -/
theorem DispatchCounts.entered_pop (hstack : world.stack thread = top :: rest) :
    ∀ other, ∀ current ∈ update world.stack thread rest other, ∀ hook,
      current.hook = some hook → ∀ listener ∈ current.enteredListeners,
        listener.id < (world.hooks hook).record.nextListenerId := by
  intro other current hcurrent
  apply h.entered other current
  by_cases hother : other = thread
  · subst hother
    rw [update_self] at hcurrent
    rw [hstack]
    exact mem_cons_of_mem _ hcurrent
  · rwa [update_of_ne hother] at hcurrent

/-- A frame without a hook goes. -/
theorem DispatchCounts.pop (hstack : world.stack thread = top :: rest)
    (hhook : top.hook = none) : DispatchCounts (world.setStack thread rest) := by
  refine ⟨fun other => ?_, fun other id => ?_, h.numbered, h.entered_pop hstack⟩
  · have htally := tally_pop (pins other) hstack
    have hzero : top.pins other = 0 := if_neg (by rw [hhook]; exact nofun)
    rw [hzero, add_zero] at htally
    exact (h.hook other).trans htally.symm
  · have htally := tally_pop (entries other id) hstack
    have hzero : top.entries other id = 0 := if_neg (by rw [hhook]; exact nofun)
    rw [hzero, add_zero] at htally
    exact (h.listener other id).trans htally.symm

/-- A frame that entered no listener goes, and gives its pin on the hook back. -/
theorem DispatchCounts.exit (hstack : world.stack thread = top :: rest)
    (hhook : top.hook = some hook) (hentered : top.enteredListeners = []) :
    DispatchCounts ((world.exitInvocation hook).setStack thread rest) := by
  have hrecord : ∀ other, ((world.exitInvocation hook).hooks other).record =
      if other = hook then { (world.hooks hook).record with
        inFlight := (world.hooks hook).record.inFlight - 1 } else (world.hooks other).record := by
    intro other
    show (update world.hooks hook (world.hooks hook).exitInvocation other).record = _
    by_cases hother : other = hook
    · subst hother
      rw [update_self, if_pos rfl]
      rfl
    · rw [update_of_ne hother, if_neg hother]
  have hnext : ∀ other, ((world.exitInvocation hook).hooks other).record.nextListenerId =
      (world.hooks other).record.nextListenerId := by
    intro other
    rw [hrecord]
    split
    next heq => rw [heq]
    · rfl
  refine ⟨fun other => ?_, fun other id => ?_, fun other listener hmem => ?_, ?_⟩
  · have htally := tally_pop (pins other) hstack
    show ((world.exitInvocation hook).hooks other).record.inFlight = _
    rw [hrecord]
    split
    next heq =>
      subst heq
      have hone : top.pins other = 1 := if_pos hhook
      rw [hone, ← h.hook other] at htally
      exact (Nat.eq_sub_of_add_eq htally).symm
    next hne =>
      have hzero : top.pins other = 0 :=
        if_neg (by rw [hhook]; exact fun heq => hne (Option.some.inj heq).symm)
      rw [hzero, add_zero] at htally
      exact (h.hook other).trans htally.symm
  · have htally := tally_pop (entries other id) hstack
    have hzero : top.entries other id = 0 := by
      unfold entries
      rw [hentered, map_nil, count_nil, ite_self]
    rw [hzero, add_zero] at htally
    exact (h.listener other id).trans htally.symm
  · have hmem : listener ∈ ((world.exitInvocation hook).hooks other).record.listeners := hmem
    show listener.id < ((world.exitInvocation hook).hooks other).record.nextListenerId
    rw [hnext]
    apply h.numbered other listener
    rw [hrecord] at hmem
    split at hmem
    next heq =>
      rw [heq]
      exact hmem
    · exact hmem
  · intro other current hcurrent id hid listener hlistener
    show listener.id < ((world.exitInvocation hook).hooks id).record.nextListenerId
    rw [hnext]
    exact h.entered_pop hstack other current hcurrent id hid listener hlistener

/-- The frame on top is released. -/
theorem DispatchCounts.releaseFrame (thread : T) : DispatchCounts (world.releaseFrame thread) := by
  unfold DispatchWorld.releaseFrame
  split
  · exact h
  next top rest hstack =>
    split
    next hhook => exact h.pop hstack hhook
    next hook hhook =>
      have hleft : DispatchCounts ((DispatchWorld.leaveListeners hook top.enteredListeners
          world).setStack thread ({ top with enteredListeners := [] } :: rest)) :=
        h.trim hstack hhook (show top.enteredListeners.Perm ([] ++ top.enteredListeners) from
          List.Perm.refl _) hhook rfl
      have hpopped := hleft.exit DispatchWorld.setStack_self hhook rfl
      have hsame : (((DispatchWorld.leaveListeners hook top.enteredListeners world).setStack thread
          ({ top with enteredListeners := [] } :: rest)).exitInvocation hook).setStack thread rest =
          ((DispatchWorld.leaveListeners hook top.enteredListeners world).exitInvocation
            hook).setStack thread rest := by
        unfold DispatchWorld.setStack DispatchWorld.exitInvocation DispatchWorld.setHook
        dsimp only
        rw [update_idem]
      rw [hsame] at hpopped
      exact hpopped

omit h in
/-- What `BeginInvocation` pins. -/
theorem beginInvocation_some {gated : Bool} {current : β → Bool} {record pinned : HookRecord β}
    {listeners : List (ListenerRecord β)}
    (h : beginInvocation gated current record = some (pinned, listeners)) :
    pinned = { record with inFlight := record.inFlight + 1 } ∧
      ∀ listener ∈ listeners, listener ∈ record.listeners := by
  obtain ⟨admitted, hadmitted, hpinned⟩ := Option.map_eq_some_iff.mp h
  obtain ⟨rfl, rfl⟩ := Prod.mk.inj hpinned
  have hpin : admitted = { record with inFlight := record.inFlight + 1 } := by
    unfold admitInvocation at hadmitted
    split at hadmitted
    · cases hadmitted
    dsimp only at hadmitted
    split at hadmitted
    · cases hadmitted
    · exact (Option.some.inj hadmitted).symm
  subst hpin
  refine ⟨rfl, fun listener hmem => ?_⟩
  unfold enteredListeners at hmem
  split at hmem
  · cases hmem
  · exact mem_of_mem_filter hmem

/-- A frame without a hook is pushed. -/
theorem DispatchCounts.pushUnhooked (hhook : frame.hook = none) :
    DispatchCounts (world.setStack thread (frame :: world.stack thread)) := by
  refine ⟨fun other => ?_, fun other id => ?_, h.numbered, ?_⟩
  · have htally := tally_push (pins other) world.stack thread frame
    have hzero : frame.pins other = 0 := if_neg (by rw [hhook]; exact nofun)
    rw [hzero, add_zero] at htally
    exact (h.hook other).trans htally.symm
  · have htally := tally_push (entries other id) world.stack thread frame
    have hzero : frame.entries other id = 0 := if_neg (by rw [hhook]; exact nofun)
    rw [hzero, add_zero] at htally
    exact (h.listener other id).trans htally.symm
  · intro other current hcurrent id hid
    have hcurrent : current ∈ update world.stack thread (frame :: world.stack thread)
        other := hcurrent
    by_cases hother : other = thread
    · subst hother
      rw [update_self] at hcurrent
      rcases mem_cons.mp hcurrent with rfl | hold
      · rw [hhook] at hid
        cases hid
      · exact h.entered other current hold id hid
    · rw [update_of_ne hother] at hcurrent
      exact h.entered other current hcurrent id hid

/-- A frame is pushed with its pins. -/
theorem DispatchCounts.push {entry : DispatchHook β} {listeners : List (ListenerRecord β)}
    (hrecord : entry.record = { (world.hooks hook).record with
      inFlight := (world.hooks hook).record.inFlight + 1 })
    (hhook : frame.hook = some hook) (hentered : frame.enteredListeners = listeners)
    (hlisteners : ∀ listener ∈ listeners, listener ∈ (world.hooks hook).record.listeners) :
    DispatchCounts ((DispatchWorld.enterListeners hook listeners
      (world.setHook hook entry)).setStack thread (frame :: world.stack thread)) := by
  subst hentered
  obtain ⟨hhooks, hframes⟩ := enterListeners_frame hook frame.enteredListeners
    (world.setHook hook entry)
  have hstacks : ((DispatchWorld.enterListeners hook frame.enteredListeners
      (world.setHook hook entry)).setStack thread (frame :: world.stack thread)).stack =
        update world.stack thread (frame :: world.stack thread) := by
    show update _ _ _ = _
    rw [hframes]
    rfl
  have hrecords : ∀ other, (((DispatchWorld.enterListeners hook frame.enteredListeners
      (world.setHook hook entry)).setStack thread (frame :: world.stack thread)).hooks
        other).record = if other = hook then entry.record else (world.hooks other).record := by
    intro other
    show ((DispatchWorld.enterListeners hook frame.enteredListeners
      (world.setHook hook entry)).hooks other).record = _
    rw [hhooks]
    show (update world.hooks hook entry other).record = _
    by_cases hother : other = hook
    · subst hother
      rw [update_self, if_pos rfl]
    · rw [update_of_ne hother, if_neg hother]
  have hnext : ∀ other, (((DispatchWorld.enterListeners hook frame.enteredListeners
      (world.setHook hook entry)).setStack thread (frame :: world.stack thread)).hooks
        other).record.nextListenerId = (world.hooks other).record.nextListenerId := by
    intro other
    rw [hrecords]
    split
    next heq => rw [heq, hrecord]
    · rfl
  refine ⟨fun other => ?_, fun other id => ?_, fun other listener hmem => ?_, ?_⟩
  · have htally := tally_push (pins other) world.stack thread frame
    rw [hstacks, hrecords, htally, ← h.hook other]
    split
    next heq =>
      subst heq
      rw [hrecord, pins, if_pos hhook]
    next hne =>
      rw [pins,
        if_neg (by rw [hhook]; exact fun heq => hne (Option.some.inj heq).symm), add_zero]
  · have htally := tally_push (entries other id) world.stack thread frame
    rw [hstacks, htally, ← h.listener other id]
    show (DispatchWorld.enterListeners hook frame.enteredListeners
      (world.setHook hook entry)).listenerInFlight other id = _
    rw [enterListeners_apply]
    show world.listenerInFlight other id + _ = _
    congr 1
    unfold entries
    rw [hhook]
    by_cases hother : other = hook
    · rw [if_pos hother, if_pos (congrArg some hother.symm)]
    · rw [if_neg hother, if_neg fun heq => hother (Option.some.inj heq).symm]
  · rw [hnext]
    apply h.numbered other listener
    rw [hrecords] at hmem
    split at hmem
    next heq =>
      rw [hrecord] at hmem
      rw [heq]
      exact hmem
    · exact hmem
  · rw [hstacks]
    intro other current hcurrent id hid listener hlistener
    rw [hnext]
    by_cases hother : other = thread
    · subst hother
      rw [update_self] at hcurrent
      rcases mem_cons.mp hcurrent with rfl | hold
      · obtain rfl := Option.some.inj (hhook.symm.trans hid)
        exact h.numbered _ listener (hlisteners listener hlistener)
      · exact h.entered other current hold id hid listener hlistener
    · rw [update_of_ne hother] at hcurrent
      exact h.entered other current hcurrent id hid listener hlistener

/-! ## Steps -/

omit h in
theorem partition_perm (p : ListenerRecord β → Bool) (listeners : List (ListenerRecord β)) :
    listeners.Perm ((listeners.partition p).1 ++ (listeners.partition p).2) := by
  rw [partition_eq_filter_filter]
  exact (filter_append_perm p listeners).symm

omit h in
/-- What the filters keep and drop are the listeners that were entered. -/
theorem filterOwners_perm (reading : SetupReading β) (listeners : List (ListenerRecord β)) :
    listeners.Perm ((reading.filterOwners listeners).1 ++ (reading.filterOwners listeners).2) :=
  partition_perm _ listeners

omit h in
theorem bindOwner_perm (reading : SetupReading β) (listeners : List (ListenerRecord β)) :
    listeners.Perm ((reading.bindOwner listeners).1 ++ (reading.bindOwner listeners).2) := by
  cases listeners with
  | nil => exact List.Perm.refl _
  | cons first rest => exact partition_perm _ (first :: rest)

theorem DispatchCounts.beginDispatch (thread : T) (hook : H)
    (context : EntryContext) (storage : Bool) (current : β → Bool) :
    DispatchCounts (world.beginDispatch thread hook context storage current).1 := by
  unfold DispatchWorld.beginDispatch
  dsimp only
  split
  · exact h
  split
  · exact h
  split
  · dsimp only
    split
    · exact h
    · exact h.releaseEntrant hook
  split
  next hrefused =>
    have hreleased : DispatchCounts (if (world.hooks hook).gatedRealDart = false ∨
        (world.hooks hook).record.backendInstalled = false then world.releaseEntrant hook
          else world) := by
      split
      · exact h.releaseEntrant hook
      · exact h
    dsimp only
    split
    · exact hreleased
    · exact hreleased.pushUnhooked rfl
  next pinned listeners hbegun =>
    obtain ⟨hpinned, hlisteners⟩ := beginInvocation_some hbegun
    exact h.push hpinned rfl rfl hlisteners

theorem DispatchCounts.setupDispatch (thread : T)
    (reading : SetupReading β) : DispatchCounts (world.setupDispatch thread reading).1 := by
  unfold DispatchWorld.setupDispatch
  split
  · exact h
  next frame rest hstack =>
    split
    · exact h
    next hook hhook =>
      generalize hfilter : reading.filterOwners frame.enteredListeners = filtered
      obtain ⟨owned, foreign⟩ := filtered
      dsimp only
      generalize hbind : reading.bindOwner owned = bound
      obtain ⟨admitted, unbound⟩ := bound
      dsimp only
      have hperm : frame.enteredListeners.Perm (admitted ++ (foreign ++ unbound)) := by
        have howners := filterOwners_perm reading frame.enteredListeners
        have hbinding := bindOwner_perm reading owned
        rw [hfilter] at howners
        rw [hbind] at hbinding
        refine howners.trans ((hbinding.append_right foreign).trans ?_)
        rw [append_assoc]
        exact perm_append_comm.append_left admitted
      rw [leaveListeners_append]
      have hfiltered : DispatchCounts ((DispatchWorld.leaveListeners hook (foreign ++ unbound)
          world).setStack thread ({ frame with enteredListeners := admitted } :: rest)) :=
        h.trim hstack hhook hperm hhook rfl
      generalize hworld : (DispatchWorld.leaveListeners hook (foreign ++ unbound)
          world).setStack thread ({ frame with enteredListeners := admitted } :: rest) =
            filtered at hfiltered ⊢
      have htop : filtered.stack thread = { frame with enteredListeners := admitted } :: rest := by
        rw [← hworld, DispatchWorld.setStack_self]
      split
      · exact hfiltered.releaseFrame thread
      split
      · exact hfiltered.releaseFrame thread
      split
      · exact hfiltered.releaseFrame thread
      have hhanded : DispatchCounts (if (world.hooks hook).gatedRealDart = true then
          filtered.releaseEntrant hook else filtered) ∧
          (if (world.hooks hook).gatedRealDart = true then filtered.releaseEntrant hook
            else filtered).stack thread = { frame with enteredListeners := admitted } :: rest := by
        split
        · exact ⟨hfiltered.releaseEntrant hook, htop⟩
        · exact ⟨hfiltered, htop⟩
      split
      · exact hhanded.1.trim hhanded.2 hhook (show admitted.Perm ([] ++ admitted) from
          List.Perm.refl _) hhook rfl
      · exact hhanded.1.retop hhanded.2 rfl rfl

theorem DispatchCounts.finishEnter (thread : T) (count : ℕ) (skipOriginal bridgeLeft : Bool) :
    DispatchCounts (world.finishEnter thread count skipOriginal bridgeLeft).1 := by
  unfold DispatchWorld.finishEnter
  split
  · exact h
  next frame rest hstack =>
    split
    · exact h
    next hook hhook =>
      have hperm : frame.enteredListeners.Perm
          (frame.enteredListeners.take count ++ frame.enteredListeners.drop count) := by
        rw [take_append_drop]
      dsimp only
      split
      · refine DispatchCounts.releaseFrame ?_ thread
        exact h.trim hstack hhook hperm hhook rfl
      split
      · exact h.trim hstack hhook hperm hhook rfl
      · exact h.trim hstack hhook hperm hhook rfl

omit [DecidableEq T] in
/-- A registry operation counts nothing, and a new listener starts at zero. -/
theorem DispatchCounts.registryStep (hook : H) (op : ListenerOp β) :
    DispatchCounts (registryStep world hook op) := by
  cases op with
  | add request =>
    have hadded : DispatchCounts (world.setHook hook { world.hooks hook with
        registry := applyListenerOp (world.hooks hook).registry (.add request) }) :=
      h.setHook (applyListenerOp_registryFrame _ _ nofun nofun)
    unfold DartPlant.registryStep
    dsimp only
    split
    next id hid =>
      obtain ⟨-, -, rfl, -⟩ := addCallbackListenerForMethod_ok (Prod.ext rfl hid)
      refine ⟨hadded.hook, fun other other_id => ?_, hadded.numbered, hadded.entered⟩
      rw [setListenerInFlight_apply]
      by_cases hother : other = hook ∧ other_id = (world.hooks hook).record.nextListenerId
      · obtain ⟨rfl, rfl⟩ := hother
        rw [update_self, update_self]
        refine (tally_zero fun thread frame hframe => ?_).symm
        unfold entries
        split
        next hhook =>
          refine count_eq_zero.mpr fun hmem => ?_
          obtain ⟨listener, hlistener, hnext⟩ := mem_map.mp hmem
          exact absurd (h.entered thread frame hframe other hhook listener hlistener)
            (hnext ▸ Nat.lt_irrefl _)
        · rfl
      · refine Eq.trans ?_ (hadded.listener other other_id)
        by_cases hsame : other = hook
        · subst hsame
          rw [update_self, update_of_ne fun heq => hother ⟨rfl, heq⟩]
        · rw [update_of_ne hsame]
    · exact hadded
  | enter => exact h
  | exit => exact h
  | erase id => exact h.setHook (applyListenerOp_registryFrame _ _ nofun nofun)
  | removeHook outcome => exact h.setHook (applyListenerOp_registryFrame _ _ nofun nofun)
  | invalidate invalidation outcome =>
    exact h.setHook (applyListenerOp_registryFrame _ _ nofun nofun)
  | acquire => exact h.setHook (applyListenerOp_registryFrame _ _ nofun nofun)
  | release => exact h.setHook (applyListenerOp_registryFrame _ _ nofun nofun)
  | finish outcome => exact h.setHook (applyListenerOp_registryFrame _ _ nofun nofun)

theorem DispatchCounts.step (action : DispatchAction β H T) :
    DispatchCounts (dispatchStep world action) := by
  cases action with
  | registry hook op => exact h.registryStep hook op
  | enter thread hook context storage current =>
    exact h.beginDispatch thread hook context storage current
  | setup thread reading =>
    unfold dispatchStep
    dsimp only
    split
    · exact h.setupDispatch thread reading
    · exact h
  | enterCallback thread => exact h.retopped (enterCallback_retops world thread)
  | finishEnter thread skipOriginal identityAmbiguous bridgeLeft =>
    unfold dispatchStep
    dsimp only
    split
    · exact h
    split
    · split
      · exact h.finishEnter thread _ skipOriginal bridgeLeft
      · exact h
    · exact h
  | prepareInvokeOriginal thread nativeFrameSp =>
    exact h.retopped (prepareInvokeOriginal_retops world thread nativeFrameSp)
  | returnFromPayload thread payload returned =>
    exact h.retopped (beginReturn_retops world thread payload returned)
  | leaveFromTls thread => exact h.retopped (beginFinish_retops world thread)
  | exceptionUnwind thread targetSpreg targetFp =>
    exact h.retopped (beginUnwind_retops world thread targetSpreg targetFp)
  | release thread =>
    unfold dispatchStep
    dsimp only
    split
    · exact h.releaseFrame thread
    · exact h.releaseFrame thread
    · exact h

end Top

/-! ## Every run -/

/-- In every run from an idle process the counters are the pins of the frames. -/
theorem in_flight_accounted [DecidableEq T] {world : DispatchWorld β H T}
    (hidle : DispatchIdle world) (actions : List (DispatchAction β H T)) :
    Along dispatchStep InFlightAccounted world actions := by
  have hcounts : Along dispatchStep DispatchCounts world actions :=
    along_of_invariant (fun _ action h _ => h.step action)
      (show AlongSteps dispatchStep (fun _ _ => True) world actions from fun _ _ _ => trivial)
      hidle.counts
  intro before hbefore
  exact (hcounts before hbefore).accounted

/-- One installed native hook with one listener, and two threads. -/
def twoThreadWorld : DispatchWorld Unit Unit (Fin 2) where
  hooks := fun _ => {
    registry := startListening {
      target := 0x1000
      hasMethod := true
      sharedCodeOptIn := false
      state := .installed
      active := true
      inFlight := 0
      backendInstalled := true
      entryReady := true
      exceptionBridgeConsumer := false
      boundToCodeTarget := true
      vmAdapterRetained := false
      nextListenerId := 2
      nextRegistrationOrder := 2
      listenerHandles := 1
      listeners := [⟨1, 0, 1, true, ()⟩] } none
    realDart := false
    payload := nullptr }
  listenerInFlight := fun _ _ => 0
  stack := fun _ => []

/-- Both threads enter, the second stays outside the isolate group of the listener, and the first
leaves. -/
def twoThreadRun : List (DispatchAction Unit Unit (Fin 2)) :=
  let first : Fin 2 := ⟨0, Nat.zero_lt_two⟩
  let second : Fin 2 := ⟨1, Nat.one_lt_two⟩
  [.enter first () ⟨0x30, 0x8000, 0x9000⟩ true fun _ => true,
    .enter second () ⟨0x34, 0x6000, 0x7000⟩ true fun _ => true,
    .setup second ⟨fun _ => false, fun _ _ => true, fun _ => false, false, true, true, true⟩,
    .setup first ⟨fun _ => true, fun _ _ => true, fun _ => false, false, true, true, true⟩,
    .enterCallback first, .finishEnter first false false true, .leaveFromTls first, .release first]

theorem in_flight_accounted_two_threads :
    ((twoThreadRun.take 2).foldl dispatchStep twoThreadWorld).listenerInFlight () 1 = 2 ∧
      ((twoThreadRun.take 3).foldl dispatchStep twoThreadWorld).listenerInFlight () 1 = 1 ∧
      Along dispatchStep InFlightAccounted twoThreadWorld twoThreadRun := by
  refine ⟨rfl, rfl, in_flight_accounted ⟨fun _ => rfl, fun _ => rfl, fun _ _ => rfl, ?_⟩ _⟩
  intro hook listener hlistener
  obtain rfl := mem_singleton.mp hlistener
  exact lt_succ_self 1

end DartPlant
