import DartPlant.Core.CallbackOrder
import DartPlant.Interceptor.ActivationPairing

/-! # The callbacks of an invocation

Beside every frame of the dispatch stacks stands what its invocation did: the record of its hook
when it began, what the filters read, and the enter and leave callbacks that ran.

A step here is a step of dispatch, or one of `FinishFrame` between two of them: the choice whether
the leave callbacks run, and every one of them.  The original returns only after it was started, and
the frame is released when no leave callback is left.
-/

namespace DartPlant
open Function

/-! ## Traces -/

/-- What an invocation did.  `generated` is whether its enter callbacks ran in the generated bridge,
`leaveBridge` whether the bridge could be entered for the leave callbacks, and `leaves` are the
leave callbacks that are still to come, once that is known. -/
structure InvocationTrace (β : Type) where
  record : HookRecord β
  current : β → Bool
  reading : Option (SetupReading β) := none
  generated : Bool := false
  leaveBridge : Bool := true
  entered : List (ListenerRecord β) := []
  leaves : Option (List (ListenerRecord β)) := none
  left : List (ListenerRecord β) := []

namespace InvocationTrace
variable {β : Type} (trace : InvocationTrace β)

/-- The listeners of the hook that pass the receipts, the isolate group and the binding. -/
def admitted : List (ListenerRecord β) :=
  match trace.reading with
  | none => []
  | some reading =>
    (reading.bindOwner
      (reading.filterOwners (enteredListeners trace.current trace.record)).1).1

/-- The leave callbacks run: there is no generated bridge, or it was entered again. -/
def leavesRun : Bool := !trace.generated || trace.leaveBridge

/-- The leave callbacks that a return owes. -/
def owedLeaves : List (ListenerRecord β) := if trace.leavesRun then trace.entered.reverse else []

end InvocationTrace

/-- The dispatch world, the traces of the frames on every stack, and those of the frames that were
released after their leave callbacks. -/
structure CallbackWorld (β H T : Type) where
  world : DispatchWorld β H T
  traces : T → List (InvocationTrace β)
  finished : List (InvocationTrace β)

/-- A step of dispatch, the choice of `FinishFrame` whether leave callbacks run, or one of them. -/
inductive CallbackAction (β H T : Type) where
  | dispatch (action : DispatchAction β H T)
  | beginLeave (thread : T) (bridgeEntered : Bool)
  | leaveCallback (thread : T)

/-- The traces of a stack of this depth: the newest goes with its frame, or is changed. -/
def keepTraces {β : Type} (depth : Nat) (change : InvocationTrace β → InvocationTrace β)
    (traces : List (InvocationTrace β)) : List (InvocationTrace β) :=
  if depth < traces.length then traces.tail else traces.modifyHead change

/-- The listener whose enter callback is next. -/
def nextEnter {β H T : Type} (world : DispatchWorld β H T) (thread : T) :
    Option (ListenerRecord β) :=
  match world.stack thread with
  | [] => none
  | frame :: _ =>
    match frame.phase with
    | .entering count => frame.enteredListeners[count]?
    | _ => none

def topPhase {β H T : Type} (world : DispatchWorld β H T) (thread : T) : Option DispatchPhase :=
  (world.stack thread).head?.map DispatchFrame.phase

section Step
variable {β H T : Type} [DecidableEq H] [DecidableEq T]

namespace CallbackWorld

def setTraces (w : CallbackWorld β H T) (thread : T) (traces : List (InvocationTrace β)) :
    CallbackWorld β H T :=
  { w with traces := update w.traces thread traces }

def dispatched (w : CallbackWorld β H T) (action : DispatchAction β H T) : CallbackWorld β H T :=
  { w with world := dispatchStep w.world action }

end CallbackWorld

/-- One step of dispatch, with the traces. -/
def tracedStep (w : CallbackWorld β H T) (action : DispatchAction β H T) : CallbackWorld β H T :=
  let after := dispatchStep w.world action
  match action with
  | .enter thread hook _ _ current =>
    let fresh : InvocationTrace β := { record := (w.world.hooks hook).record, current }
    (w.dispatched action).setTraces thread
      (if (w.world.stack thread).length < (after.stack thread).length
        then fresh :: w.traces thread else w.traces thread)
  | .setup thread reading =>
    if topPhase w.world thread = some .begun then
      let generated := (after.stack thread).head?.any DispatchFrame.generatedVmBridgeActive
      (w.dispatched action).setTraces thread
        (keepTraces (after.stack thread).length
          (fun trace => { trace with reading := some reading, generated }) (w.traces thread))
    else w
  | .enterCallback thread =>
    (w.dispatched action).setTraces thread ((w.traces thread).modifyHead fun trace =>
      { trace with entered := trace.entered ++ (nextEnter w.world thread).toList })
  | .finishEnter thread _ _ _ =>
    (w.dispatched action).setTraces thread
      (keepTraces (after.stack thread).length id (w.traces thread))
  | .returnFromPayload thread _ _ =>
    -- A return to the native frame that invoked the original ends no activation.
    if topPhase w.world thread = some .original ∨
        (w.world.stack thread).head?.any (·.invokeOriginalNativeFrame != 0) then
      w.dispatched action
    else w
  | .leaveFromTls thread =>
    if topPhase w.world thread = some .original then w.dispatched action else w
  | .release thread =>
    match w.traces thread with
    | [] => w
    | trace :: rest =>
      if topPhase w.world thread = some .leaving then
        if trace.leaves.any List.isEmpty then
          { (w.dispatched action).setTraces thread rest with finished := trace :: w.finished }
        else w
      else if topPhase w.world thread = some .unwinding then
        (w.dispatched action).setTraces thread rest
      else w
  | .registry _ _ | .prepareInvokeOriginal _ _ | .exceptionUnwind _ _ _ => w.dispatched action

/-- One step. -/
def callbackStep (w : CallbackWorld β H T) : CallbackAction β H T → CallbackWorld β H T
  | .dispatch action => tracedStep w action
  | .beginLeave thread bridgeEntered =>
    match w.world.stack thread with
    | [] => w
    | frame :: _ =>
      if frame.phase = .leaving then
        w.setTraces thread ((w.traces thread).modifyHead fun trace =>
          if trace.leaves.isNone then
            { trace with
              leaveBridge := bridgeEntered
              leaves := some (if !trace.generated || bridgeEntered
                then frame.enteredListeners.reverse else []) }
          else trace)
      else w
  | .leaveCallback thread =>
    if topPhase w.world thread = some .leaving then
      w.setTraces thread ((w.traces thread).modifyHead fun trace =>
        match trace.leaves with
        | some (listener :: rest) =>
          { trace with left := trace.left ++ [listener], leaves := some rest }
        | _ => trace)
    else w

end Step

/-! ## The listeners of the hooks -/

section Hooks
variable {β H T : Type} [DecidableEq H] {world : DispatchWorld β H T} {hook : H}

/-- The listeners of every hook are in callback order. -/
def OrderedHooks (world : DispatchWorld β H T) : Prop :=
  ∀ hook, CallbackOrdered (world.hooks hook).record

variable (h : OrderedHooks world)
include h

theorem OrderedHooks.setHook {entry : DispatchHook β}
    (hentry : CallbackOrdered entry.record) : OrderedHooks (world.setHook hook entry) := by
  intro other
  change CallbackOrdered (update world.hooks hook entry other).record
  by_cases heq : other = hook
  · rw [heq, update_self]
    exact hentry
  · rw [update_of_ne heq]
    exact h other

theorem OrderedHooks.leaveListeners (listeners : List (ListenerRecord β)) :
    OrderedHooks (DispatchWorld.leaveListeners hook listeners world) := by
  intro other
  rw [(leaveListeners_frame hook listeners world).1]
  exact h other

theorem OrderedHooks.enterListeners (listeners : List (ListenerRecord β)) :
    OrderedHooks (DispatchWorld.enterListeners hook listeners world) := by
  intro other
  rw [(enterListeners_frame hook listeners world).1]
  exact h other

theorem OrderedHooks.exitInvocation (hook : H) : OrderedHooks (world.exitInvocation hook) := by
  apply h.setHook
  exact (h hook).frame ⟨List.Sublist.refl _, rfl⟩

theorem OrderedHooks.releaseEntrant (hook : H) :
    OrderedHooks (world.releaseEntrant hook) := h.setHook (h hook)

theorem OrderedHooks.registryStep (hook : H) (op : ListenerOp β) :
    OrderedHooks (DartPlant.registryStep world hook op) := by
  have happlied : OrderedHooks (world.setHook hook { world.hooks hook with
      registry := applyListenerOp (world.hooks hook).registry op }) :=
    h.setHook ((h hook).applyListenerOp op)
  cases op with
  | enter => exact h
  | exit => exact h
  | add request =>
    unfold DartPlant.registryStep
    dsimp only
    split
    · exact happlied
    · exact happlied
  | _ => exact happlied

variable [DecidableEq T] {thread : T}

theorem OrderedHooks.releaseFrame (thread : T) : OrderedHooks (world.releaseFrame thread) := by
  unfold DispatchWorld.releaseFrame
  split
  · exact h
  next frame rest hstack =>
    split
    · exact h
    next hook hhook => exact (h.leaveListeners frame.enteredListeners).exitInvocation hook

theorem OrderedHooks.beginDispatch (thread : T) (hook : H)
    (context : EntryContext) (storage : Bool) (current : β → Bool) :
    OrderedHooks (world.beginDispatch thread hook context storage current).1 := by
  have hreleased (released : Prop) [Decidable released] :
      OrderedHooks (if released then world.releaseEntrant hook else world) := by
    split
    · exact h.releaseEntrant hook
    · exact h
  unfold DispatchWorld.beginDispatch
  dsimp only
  split
  · exact h
  split
  · exact h
  split
  · split
    · exact h
    · exact h.releaseEntrant hook
  split
  next hnone =>
    split
    · exact hreleased _
    · exact hreleased _
  next pinned listeners hpinned =>
    obtain ⟨rfl, -⟩ := beginInvocation_some hpinned
    apply OrderedHooks.enterListeners
    apply h.setHook
    exact (h hook).frame ⟨List.Sublist.refl _, rfl⟩

theorem OrderedHooks.setupDispatch (thread : T)
    (reading : SetupReading β) : OrderedHooks (world.setupDispatch thread reading).1 := by
  unfold DispatchWorld.setupDispatch
  split
  · exact h
  next frame rest hstack =>
    split
    · exact h
    next hook hhook =>
      dsimp only
      have hleft : OrderedHooks (DispatchWorld.leaveListeners hook
          (reading.bindOwner (reading.filterOwners frame.enteredListeners).1).2
          (DispatchWorld.leaveListeners hook (reading.filterOwners frame.enteredListeners).2
            world)) := (h.leaveListeners _).leaveListeners _
      generalize DispatchWorld.leaveListeners hook
          (reading.bindOwner (reading.filterOwners frame.enteredListeners).1).2
          (DispatchWorld.leaveListeners hook (reading.filterOwners frame.enteredListeners).2
            world) = left at hleft
      have hset : ∀ frames, OrderedHooks (left.setStack thread frames) := fun _ => hleft
      have hhanded (gated : Bool) (frames : List (DispatchFrame β H)) :
          OrderedHooks (if gated then (left.setStack thread frames).releaseEntrant hook
            else left.setStack thread frames) := by
        split
        · exact (hset frames).releaseEntrant hook
        · exact hset frames
      split
      · exact (hset _).releaseFrame thread
      split
      · exact (hset _).releaseFrame thread
      split
      · exact (hset _).releaseFrame thread
      split
      · exact (hhanded _ _).leaveListeners _
      · exact hhanded _ _

theorem OrderedHooks.finishEnter (thread : T) (count : Nat) (skipOriginal bridgeLeft : Bool) :
    OrderedHooks (world.finishEnter thread count skipOriginal bridgeLeft).1 := by
  unfold DispatchWorld.finishEnter
  split
  · exact h
  next frame rest hstack =>
    split
    · exact h
    next hook hhook =>
      dsimp only
      have htrimmed : ∀ frames, OrderedHooks ((DispatchWorld.leaveListeners hook
          (frame.enteredListeners.drop count) world).setStack thread frames) :=
        fun _ => h.leaveListeners _
      split
      · exact (htrimmed _).releaseFrame thread
      split
      · exact htrimmed _
      · exact htrimmed _

omit [DecidableEq H] in
theorem OrderedHooks.retopped {after : DispatchWorld β H T}
    (hafter : Retopped world thread after) : OrderedHooks after := by
  cases hafter with
  | same => exact h
  | top => exact h

/-- No step of dispatch disturbs the callback order of a hook. -/
theorem OrderedHooks.step (action : DispatchAction β H T) :
    OrderedHooks (dispatchStep world action) := by
  cases action with
  | registry hook op => exact h.registryStep hook op
  | enter thread hook context storage current =>
    exact h.beginDispatch thread hook context storage current
  | setup thread reading =>
    unfold dispatchStep
    dsimp only
    split
    · exact h.setupDispatch thread reading
    · exact h
  | enterCallback thread => exact h.retopped (enterCallback_retops world thread)
  | finishEnter thread skipOriginal identityAmbiguous bridgeLeft =>
    unfold dispatchStep
    dsimp only
    split
    · exact h
    split
    · split
      · exact h.finishEnter thread _ skipOriginal bridgeLeft
      · exact h
    · exact h
  | prepareInvokeOriginal thread nativeFrameSp =>
    exact h.retopped (prepareInvokeOriginal_retops world thread nativeFrameSp)
  | returnFromPayload thread payload returned =>
    exact h.retopped (beginReturn_retops world thread payload returned)
  | leaveFromTls thread => exact h.retopped (beginFinish_retops world thread)
  | exceptionUnwind thread targetSpreg targetFp =>
    exact h.retopped (beginUnwind_retops world thread targetSpreg targetFp)
  | release thread =>
    unfold dispatchStep
    dsimp only
    split
    · exact h.releaseFrame thread
    · exact h.releaseFrame thread
    · exact h

end Hooks

/-! ## Frames and traces -/

namespace InvocationTrace
variable {β : Type} {trace : InvocationTrace β}

/-- No leave callback was chosen yet. -/
def Quiet (trace : InvocationTrace β) : Prop := trace.left = [] ∧ trace.leaves = none

theorem owedLeaves_prefix : trace.owedLeaves <+: trace.entered.reverse := by
  unfold owedLeaves
  split
  · exact List.prefix_refl _
  · exact List.nil_prefix

/-- The filters take listeners and keep the order of the others. -/
theorem admitted_sublist : trace.admitted.Sublist trace.record.listeners := by
  unfold admitted
  split
  · exact List.nil_sublist _
  next reading hreading =>
    have hentered : (enteredListeners trace.current trace.record).Sublist
        trace.record.listeners := by
      unfold enteredListeners
      split
      · exact List.nil_sublist _
      · exact List.filter_sublist
    have howned : (reading.filterOwners (enteredListeners trace.current trace.record)).1.Sublist
        (enteredListeners trace.current trace.record) := by
      rw [SetupReading.filterOwners, List.partition_eq_filter_filter]
      exact List.filter_sublist
    refine List.Sublist.trans ?_ (howned.trans hentered)
    unfold SetupReading.bindOwner
    split
    · exact List.nil_sublist _
    next first rest hfirst =>
      rw [List.partition_eq_filter_filter]
      exact List.filter_sublist

end InvocationTrace

/-- The trace of a frame, phase by phase. -/
inductive Follows {β H : Type} (frame : DispatchFrame β H) (trace : InvocationTrace β) :
    Prop where
  | begun (phase : frame.phase = .begun) (hook : frame.hook.isSome = true)
      (listeners : frame.enteredListeners = enteredListeners trace.current trace.record)
      (entered : trace.entered = []) (quiet : trace.Quiet)
  | entering (count : Nat) (phase : frame.phase = .entering count)
      (listeners : frame.enteredListeners = trace.admitted)
      (entered : trace.entered = trace.admitted.take count) (quiet : trace.Quiet)
  | original (phase : frame.phase = .original) (listeners : frame.enteredListeners = trace.entered)
      (entered : trace.entered <+: trace.admitted) (quiet : trace.Quiet)
  | leaving (phase : frame.phase = .leaving) (listeners : frame.enteredListeners = trace.entered)
      (entered : trace.entered <+: trace.admitted)
      (left : trace.Quiet ∨
        ∃ rest, trace.leaves = some rest ∧ trace.left ++ rest = trace.owedLeaves)
  | unwinding (phase : frame.phase = .unwinding) (entered : trace.entered <+: trace.admitted)
      (left : trace.left <+: trace.entered.reverse)

/-- A frame beside its trace. -/
def TracedFrame {β H : Type} (frame : DispatchFrame β H) (trace : InvocationTrace β) : Prop :=
  CallbackOrdered trace.record ∧ Follows frame trace

/-- What holds of the traces throughout a run. -/
structure CallbackInvariant {β H T : Type} (w : CallbackWorld β H T) : Prop where
  hooks : OrderedHooks w.world
  frames : ∀ thread, List.Forall₂ TracedFrame (w.world.stack thread) (w.traces thread)
  finished : ∀ trace ∈ w.finished, CallbackOrdered trace.record ∧
    trace.entered <+: trace.admitted ∧ trace.left = trace.owedLeaves

section Follows
variable {β H : Type} {frame after : DispatchFrame β H} {trace : InvocationTrace β}

theorem Follows.entered_prefix (h : Follows frame trace) : trace.entered <+: trace.admitted := by
  cases h with
  | begun _ _ _ entered _ =>
    rw [entered]
    exact List.nil_prefix
  | entering count _ _ entered _ =>
    rw [entered]
    exact List.take_prefix _ _
  | original _ _ entered _ => exact entered
  | leaving _ _ entered _ => exact entered
  | unwinding _ entered _ => exact entered

theorem Follows.left_prefix (h : Follows frame trace) : trace.left <+: trace.entered.reverse := by
  have hquiet : trace.Quiet → trace.left <+: trace.entered.reverse := by
    intro hquiet
    rw [hquiet.1]
    exact List.nil_prefix
  cases h with
  | begun _ _ _ _ quiet => exact hquiet quiet
  | entering _ _ _ _ quiet => exact hquiet quiet
  | original _ _ _ quiet => exact hquiet quiet
  | leaving _ _ _ left =>
    rcases left with quiet | ⟨rest, -, howed⟩
    · exact hquiet quiet
    · refine List.IsPrefix.trans ?_ trace.owedLeaves_prefix
      rw [← howed]
      exact List.prefix_append _ _
  | unwinding _ _ left => exact left

/-- Whatever the frame was doing, it is unwound. -/
theorem Follows.unwind (h : Follows frame trace) :
    Follows { frame with phase := .unwinding } trace :=
  .unwinding rfl h.entered_prefix h.left_prefix

/-- A change that the trace says nothing of. -/
theorem Follows.congr (h : Follows frame trace) (hphase : after.phase = frame.phase)
    (hhook : after.hook = frame.hook)
    (hlisteners : after.enteredListeners = frame.enteredListeners) : Follows after trace := by
  cases h with
  | begun phase hook listeners entered quiet =>
    exact .begun (hphase.trans phase) (by rw [hhook]; exact hook) (hlisteners.trans listeners)
      entered quiet
  | entering count phase listeners entered quiet =>
    exact .entering count (hphase.trans phase) (hlisteners.trans listeners) entered quiet
  | original phase listeners entered quiet =>
    exact .original (hphase.trans phase) (hlisteners.trans listeners) entered quiet
  | leaving phase listeners entered left =>
    exact .leaving (hphase.trans phase) (hlisteners.trans listeners) entered left
  | unwinding phase entered left => exact .unwinding (hphase.trans phase) entered left

/-- The original returns. -/
theorem Follows.finish (h : Follows frame trace) (horiginal : frame.phase = .original) :
    Follows { frame with phase := .leaving } trace := by
  cases h with
  | original _ listeners entered quiet => exact .leaving rfl listeners entered (Or.inl quiet)
  | begun phase => exact absurd (horiginal.symm.trans phase) nofun
  | entering count phase => exact absurd (horiginal.symm.trans phase) nofun
  | leaving phase => exact absurd (horiginal.symm.trans phase) nofun
  | unwinding phase => exact absurd (horiginal.symm.trans phase) nofun

end Follows

/-! ## Pieces of a dispatch -/

section Pieces
variable {β H T : Type} [DecidableEq H] [DecidableEq T] {world : DispatchWorld β H T} {thread : T}
  {frame : DispatchFrame β H} {rest : List (DispatchFrame β H)} {trace : InvocationTrace β}

/-- What `BeginInvocation` enters. -/
theorem beginInvocation_listeners {gated : Bool} {current : β → Bool}
    {record pinned : HookRecord β} {listeners : List (ListenerRecord β)}
    (h : beginInvocation gated current record = some (pinned, listeners)) :
    listeners = enteredListeners current record := by
  obtain ⟨rfl, -⟩ := beginInvocation_some h
  obtain ⟨admitted, -, hpair⟩ := Option.map_eq_some_iff.mp h
  obtain ⟨rfl, rfl⟩ := Prod.mk.inj hpair
  rfl

omit [DecidableEq H] in
/-- A stack that was set has its new frame on top. -/
theorem exists_top {p : DispatchFrame β H → Prop} {before : DispatchWorld β H T}
    {top : DispatchFrame β H} (hset : (before.setStack thread (top :: rest)).stack =
      update world.stack thread (top :: rest)) (h : p top) :
    ∃ after, (before.setStack thread (top :: rest)).stack =
      update world.stack thread (after :: rest) ∧ p after :=
  ⟨top, hset, h⟩

theorem beginDispatch_traced {hook : H} (thread : T)
    (hordered : CallbackOrdered (world.hooks hook).record)
    (context : EntryContext) (storage : Bool) (current : β → Bool) :
    (world.beginDispatch thread hook context storage current).1.stack = world.stack ∨
      ∃ frame, (world.beginDispatch thread hook context storage current).1.stack =
        update world.stack thread (frame :: world.stack thread) ∧
          TracedFrame frame { record := (world.hooks hook).record, current } := by
  have hreleased (released : Prop) [Decidable released] :
      (if released then world.releaseEntrant hook else world).stack = world.stack := by
    split
    · rfl
    · rfl
  unfold DispatchWorld.beginDispatch
  dsimp only
  split
  · exact Or.inl rfl
  split
  · exact Or.inl rfl
  split
  · refine Or.inl ?_
    split
    · rfl
    · rfl
  split
  · split
    · exact Or.inl (hreleased _)
    · rw [hreleased]
      refine Or.inr (exists_top ?_ ⟨hordered, ?_⟩)
      · rw [setStack_stack, hreleased]
      · exact .original rfl rfl List.nil_prefix ⟨rfl, rfl⟩
  next pinned listeners hpinned =>
    refine Or.inr (exists_top ?_ ⟨hordered, ?_⟩)
    · rw [setStack_stack, (enterListeners_frame ..).2]
      rfl
    · exact .begun rfl rfl (beginInvocation_listeners hpinned) rfl ⟨rfl, rfl⟩

theorem setupDispatch_traced (hstack : world.stack thread = frame :: rest)
    (h : TracedFrame frame trace) (hbegun : frame.phase = .begun) (reading : SetupReading β) :
    (world.setupDispatch thread reading).1.stack = update world.stack thread rest ∨
      ∃ after, (world.setupDispatch thread reading).1.stack =
        update world.stack thread (after :: rest) ∧
          TracedFrame after { trace with
            reading := some reading, generated := after.generatedVmBridgeActive } := by
  obtain ⟨hordered, hfollows⟩ := h
  obtain ⟨hhook, hlisteners, hentered, hquiet⟩ : frame.hook.isSome = true ∧
      frame.enteredListeners = enteredListeners trace.current trace.record ∧
        trace.entered = [] ∧ trace.Quiet := by
    cases hfollows with
    | begun _ hook listeners entered quiet => exact ⟨hook, listeners, entered, quiet⟩
    | entering count phase => exact absurd (hbegun.symm.trans phase) nofun
    | original phase => exact absurd (hbegun.symm.trans phase) nofun
    | leaving phase => exact absurd (hbegun.symm.trans phase) nofun
    | unwinding phase => exact absurd (hbegun.symm.trans phase) nofun
  obtain ⟨hook, hsome⟩ := Option.isSome_iff_exists.mp hhook
  unfold DispatchWorld.setupDispatch
  rw [hstack]
  dsimp only
  rw [hsome]
  dsimp only
  have hleft : (DispatchWorld.leaveListeners hook
      (reading.bindOwner (reading.filterOwners frame.enteredListeners).1).2
      (DispatchWorld.leaveListeners hook (reading.filterOwners frame.enteredListeners).2
        world)).stack = world.stack := by
    rw [(leaveListeners_frame ..).2, (leaveListeners_frame ..).2]
  generalize DispatchWorld.leaveListeners hook
      (reading.bindOwner (reading.filterOwners frame.enteredListeners).1).2
      (DispatchWorld.leaveListeners hook (reading.filterOwners frame.enteredListeners).2
        world) = left at hleft
  have hfiltered (frames : List (DispatchFrame β H)) :
      (left.setStack thread frames).stack = update world.stack thread frames := by
    rw [setStack_stack, hleft]
  have hreleased (top : DispatchFrame β H) :
      ((left.setStack thread (top :: rest)).releaseFrame thread).stack =
        update world.stack thread rest := by
    rw [releaseFrame_stack DispatchWorld.setStack_self, hfiltered, update_idem]
  have hhanded (gated : Bool) (frames : List (DispatchFrame β H)) :
      (if gated then (left.setStack thread frames).releaseEntrant hook
        else left.setStack thread frames).stack = update world.stack thread frames := by
    cases gated with
    | false => exact hfiltered frames
    | true => exact hfiltered frames
  split
  · exact Or.inl (hreleased _)
  split
  · exact Or.inl (hreleased _)
  split
  · exact Or.inl (hreleased _)
  split
  · refine Or.inr (exists_top ?_ ⟨hordered, ?_⟩)
    · rw [setStack_stack, (leaveListeners_frame ..).2, hhanded, update_idem]
    · refine .original rfl hentered.symm ?_ hquiet
      dsimp only
      rw [hentered]
      exact List.nil_prefix
  · refine Or.inr (exists_top ?_ ⟨hordered, ?_⟩)
    · rw [setStack_stack, hhanded, update_idem]
    · refine .entering 0 rfl ?_ hentered hquiet
      dsimp only [InvocationTrace.admitted]
      rw [hlisteners]

theorem finishEnter_traced (hstack : world.stack thread = frame :: rest)
    (h : TracedFrame frame trace) {count : Nat} (hentering : frame.phase = .entering count)
    (skipOriginal bridgeLeft : Bool) :
    (world.finishEnter thread count skipOriginal bridgeLeft).1.stack =
        update world.stack thread rest ∨
      ∃ after, (world.finishEnter thread count skipOriginal bridgeLeft).1.stack =
        update world.stack thread (after :: rest) ∧ TracedFrame after trace := by
  obtain ⟨hordered, hfollows⟩ := h
  have hkeep : frame.hook = none →
      ∃ after, (world.finishEnter thread count skipOriginal bridgeLeft).1.stack =
        update world.stack thread (after :: rest) ∧ TracedFrame after trace := by
    intro hnone
    refine ⟨frame, ?_, hordered, hfollows⟩
    unfold DispatchWorld.finishEnter
    rw [hstack]
    dsimp only
    rw [hnone]
    dsimp only
    rw [← hstack, update_eq_self]
  obtain ⟨hlisteners, hentered, hquiet⟩ : frame.enteredListeners = trace.admitted ∧
      trace.entered = trace.admitted.take count ∧ trace.Quiet := by
    cases hfollows with
    | begun phase => exact absurd (hentering.symm.trans phase) nofun
    | entering other phase listeners entered quiet =>
      obtain rfl := DispatchPhase.entering.inj (hentering.symm.trans phase)
      exact ⟨listeners, entered, quiet⟩
    | original phase => exact absurd (hentering.symm.trans phase) nofun
    | leaving phase => exact absurd (hentering.symm.trans phase) nofun
    | unwinding phase => exact absurd (hentering.symm.trans phase) nofun
  have htaken : frame.enteredListeners.take count = trace.entered := by
    rw [hlisteners, hentered]
  cases hhook : frame.hook with
  | none => exact Or.inr (hkeep hhook)
  | some hook =>
    have htrimmed (frames : List (DispatchFrame β H)) :
        ((DispatchWorld.leaveListeners hook (frame.enteredListeners.drop count) world).setStack
          thread frames).stack = update world.stack thread frames := by
      rw [setStack_stack, (leaveListeners_frame ..).2]
    unfold DispatchWorld.finishEnter
    rw [hstack]
    dsimp only
    rw [hhook]
    dsimp only
    split
    · refine Or.inl ?_
      rw [releaseFrame_stack DispatchWorld.setStack_self, htrimmed, update_idem]
    split
    · refine Or.inr (exists_top (htrimmed _) ⟨hordered, ?_⟩)
      exact .leaving rfl htaken hfollows.entered_prefix (Or.inl hquiet)
    · refine Or.inr (exists_top (htrimmed _) ⟨hordered, ?_⟩)
      exact .original rfl htaken hfollows.entered_prefix hquiet

end Pieces

end DartPlant
