import DartPlant.Core.GatedHook
import DartPlant.Interceptor.CallbackTraces

/-! # Callbacks in order

The enter callbacks of an invocation are those of a prefix of the listeners it was admitted for, in
callback order, and a return runs the leave callbacks of the same listeners in reverse, whatever was
added or removed in the meantime (`callbacks_in_order`).  No leave callback runs when the generated
bridge cannot be entered again.
-/

namespace DartPlant
open Function DispatchWorld List

/-! ## Steps -/

section Steps
variable {β H T : Type} [DecidableEq H] [DecidableEq T] {w : CallbackWorld β H T} {thread : T}
  {frame top : DispatchFrame β H} {rest : List (DispatchFrame β H)}
  {trace : InvocationTrace β} {traces : List (InvocationTrace β)}
  {action : DispatchAction β H T}

omit [DecidableEq H] [DecidableEq T] in
theorem topPhase_eq_some {phase : DispatchPhase} (h : topPhase w.world thread = some phase) :
    ∃ frame rest, w.world.stack thread = frame :: rest ∧ frame.phase = phase := by
  unfold topPhase at h
  cases hstack : w.world.stack thread with
  | nil =>
    rw [hstack] at h
    cases h
  | cons frame rest =>
    rw [hstack] at h
    exact ⟨frame, rest, rfl, Option.some.inj h⟩

omit [DecidableEq H] [DecidableEq T] in
/-- The newest frame has the newest trace. -/
theorem CallbackInvariant.newest (h : CallbackInvariant w)
    (hstack : w.world.stack thread = frame :: rest) :
    ∃ trace traces, w.traces thread = trace :: traces ∧ TracedFrame frame trace ∧
      List.Forall₂ TracedFrame rest traces := by
  have hframes := h.frames thread
  rw [hstack] at hframes
  obtain ⟨trace, traces, htop, hrest, htraces⟩ := forall₂_cons_left_iff.mp hframes
  exact ⟨trace, traces, htraces, htop, hrest⟩

/-- A step that leaves this stack and these traces. -/
theorem CallbackInvariant.move (h : CallbackInvariant w) {frames : List (DispatchFrame β H)}
    (hstack : (dispatchStep w.world action).stack = update w.world.stack thread frames)
    (hframes : List.Forall₂ TracedFrame frames traces) :
    CallbackInvariant ((w.dispatched action).setTraces thread traces) where
  hooks := h.hooks.step action
  frames other := by
    change List.Forall₂ TracedFrame ((dispatchStep w.world action).stack other)
      (update w.traces thread traces other)
    rw [hstack]
    by_cases heq : other = thread
    · rw [heq, update_self, update_self]
      exact hframes
    · rw [update_of_ne heq, update_of_ne heq]
      exact h.frames other
  finished := h.finished

omit [DecidableEq H] in
theorem setTraces_self : w.setTraces thread (w.traces thread) = w := by
  rw [CallbackWorld.setTraces, update_eq_self]

/-- A step that changes a frame, and nothing that its trace says. -/
theorem CallbackInvariant.retop (h : CallbackInvariant w)
    (hstack : w.world.stack thread = frame :: rest)
    (hafter : (dispatchStep w.world action).stack =
      update w.world.stack thread (top :: rest))
    (htop : ∀ trace, Follows frame trace → Follows top trace) :
    CallbackInvariant (w.dispatched action) := by
  obtain ⟨trace, traces, htraces, ⟨hordered, hfollows⟩, hrest⟩ := h.newest hstack
  have hmoved : CallbackInvariant ((w.dispatched action).setTraces thread (w.traces thread)) := by
    rw [htraces]
    exact h.move hafter (.cons ⟨hordered, htop trace hfollows⟩ hrest)
  exact setTraces_self (w := w.dispatched action) ▸ hmoved

theorem CallbackInvariant.stay (h : CallbackInvariant w)
    (hstack : (dispatchStep w.world action).stack = w.world.stack) :
    CallbackInvariant (w.dispatched action) where
  hooks := h.hooks.step action
  frames other := by
    change List.Forall₂ TracedFrame ((dispatchStep w.world action).stack other) (w.traces other)
    rw [hstack]
    exact h.frames other
  finished := h.finished

/-- The traces stay with their frames, whether the newest frame was released or not. -/
theorem CallbackInvariant.keep (h : CallbackInvariant w)
    (htraces : w.traces thread = trace :: traces)
    (hrest : List.Forall₂ TracedFrame rest traces)
    {change : InvocationTrace β → InvocationTrace β}
    (hafter : (dispatchStep w.world action).stack = update w.world.stack thread rest ∨
      ∃ top, (dispatchStep w.world action).stack =
        update w.world.stack thread (top :: rest) ∧ TracedFrame top (change trace)) :
    CallbackInvariant ((w.dispatched action).setTraces thread
      (keepTraces ((dispatchStep w.world action).stack thread).length change
        (w.traces thread))) := by
  have hlength := hrest.length_eq
  rcases hafter with hafter | ⟨top, hafter, htop⟩
  · refine h.move hafter ?_
    rw [hafter, update_self, htraces, keepTraces, length_cons, hlength,
      if_pos (Nat.lt_succ_self _)]
    exact hrest
  · refine h.move hafter ?_
    rw [hafter, update_self, htraces, keepTraces, length_cons, length_cons,
      hlength, if_neg (Nat.lt_irrefl _)]
    exact .cons htop hrest

theorem CallbackInvariant.enter (h : CallbackInvariant w) (hook : H) (context : EntryContext)
    (storage : Bool) (current : β → Bool) :
    CallbackInvariant (tracedStep w (.enter thread hook context storage current)) := by
  have hframes := h.frames thread
  have hpieces := beginDispatch_traced thread (h.hooks hook) context storage current
  unfold tracedStep
  dsimp only
  rcases hpieces with hsame | ⟨top, hpushed, htop⟩
  · have hstay : (dispatchStep w.world (.enter thread hook context storage current)).stack =
        update w.world.stack thread (w.world.stack thread) := by
      rw [update_eq_self]
      exact hsame
    refine h.move hstay ?_
    have hidle : ¬ (w.world.stack thread).length <
        ((dispatchStep w.world (.enter thread hook context storage current)).stack
          thread).length := by
      change ¬ _ < ((w.world.beginDispatch thread hook context storage current).1.stack
        thread).length
      rw [hsame]
      exact Nat.lt_irrefl _
    rw [if_neg hidle]
    exact hframes
  · refine h.move hpushed ?_
    have hgrown : (w.world.stack thread).length <
        ((dispatchStep w.world (.enter thread hook context storage current)).stack
          thread).length := by
      change _ < ((w.world.beginDispatch thread hook context storage current).1.stack
        thread).length
      rw [hpushed, update_self]
      exact Nat.lt_succ_self _
    rw [if_pos hgrown]
    exact .cons htop hframes

theorem CallbackInvariant.setup (h : CallbackInvariant w) (reading : SetupReading β) :
    CallbackInvariant (tracedStep w (.setup thread reading)) := by
  unfold tracedStep
  dsimp only
  split
  on_goal 2 => exact h
  next hbegun =>
    obtain ⟨frame, rest, hstack, hphase⟩ := topPhase_eq_some hbegun
    obtain ⟨trace, traces, htraces, htop, hrest⟩ := h.newest hstack
    have hstep : dispatchStep w.world (.setup thread reading) =
        (w.world.setupDispatch thread reading).1 := by
      unfold topPhase at hbegun
      unfold dispatchStep
      dsimp only
      rw [hbegun]
    refine h.keep htraces hrest ?_
    rw [hstep]
    rcases setupDispatch_traced hstack htop hphase reading with hgone | ⟨after, hafter, htraced⟩
    · exact Or.inl hgone
    · refine Or.inr ⟨after, hafter, ?_⟩
      rw [hafter, update_self, List.head?_cons, Option.any_some]
      exact htraced

omit [DecidableEq H] in
/-- Without a next listener nothing is called. -/
theorem enterCallback_idle (h : nextEnter w.world thread = none) :
    w.world.enterCallback thread = w.world := by
  unfold nextEnter at h
  unfold DispatchWorld.enterCallback
  cases hstack : w.world.stack thread with
  | nil => rfl
  | cons frame rest =>
    rw [hstack] at h
    dsimp only at h ⊢
    split
    next count hphase =>
      rw [hphase] at h
      rw [if_neg (Nat.not_lt.mpr (List.getElem?_eq_none_iff.mp h))]
    · rfl

omit [DecidableEq H] [DecidableEq T] in
theorem nextEnter_eq_some {listener : ListenerRecord β}
    (h : nextEnter w.world thread = some listener) :
    ∃ frame rest count, w.world.stack thread = frame :: rest ∧ frame.phase = .entering count ∧
      frame.enteredListeners[count]? = some listener := by
  unfold nextEnter at h
  split at h
  · cases h
  next frame rest hstack =>
    split at h
    next count hphase => exact ⟨frame, rest, count, hstack, hphase, h⟩
    · cases h

variable (h : CallbackInvariant w)
include h

theorem CallbackInvariant.enterCallback :
    CallbackInvariant (tracedStep w (.enterCallback thread)) := by
  unfold tracedStep
  dsimp only
  cases hnext : nextEnter w.world thread with
  | none =>
    have hsame : (w.traces thread).modifyHead (fun trace => { trace with
        entered := trace.entered ++ (none : Option (ListenerRecord β)).toList }) =
          w.traces thread := by
      cases w.traces thread with
      | nil => rfl
      | cons trace traces => simp
    have hstay : (dispatchStep w.world (.enterCallback thread)).stack =
        update w.world.stack thread (w.world.stack thread) := by
      rw [update_eq_self]
      exact congrArg stack (enterCallback_idle hnext)
    rw [hsame]
    exact h.move hstay (h.frames thread)
  | some listener =>
    obtain ⟨frame, rest, count, hstack, hphase, hlistener⟩ := nextEnter_eq_some hnext
    obtain ⟨trace, traces, htraces, ⟨hordered, hfollows⟩, hrest⟩ := h.newest hstack
    have hcalled : (dispatchStep w.world (.enterCallback thread)).stack =
        update w.world.stack thread
          ({ frame with phase := .entering (count + 1) } :: rest) := by
      change (w.world.enterCallback thread).stack = _
      unfold DispatchWorld.enterCallback
      rw [hstack]
      dsimp only
      rw [hphase]
      dsimp only
      rw [if_pos (List.getElem?_eq_some_iff.mp hlistener).1]
      rfl
    rw [htraces, modifyHead_cons]
    refine h.move hcalled (.cons ⟨hordered, ?_⟩ hrest)
    cases hfollows with
    | entering other phase listeners entered quiet =>
      obtain rfl := DispatchPhase.entering.inj (hphase.symm.trans phase)
      refine .entering (count + 1) rfl listeners ?_ quiet
      change trace.entered ++ [listener] = trace.admitted.take (count + 1)
      rw [entered, take_add_one, ← listeners, hlistener]
      rfl
    | begun phase => exact absurd (hphase.symm.trans phase) nofun
    | original phase => exact absurd (hphase.symm.trans phase) nofun
    | leaving phase => exact absurd (hphase.symm.trans phase) nofun
    | unwinding phase => exact absurd (hphase.symm.trans phase) nofun

theorem CallbackInvariant.finishEnter (skipOriginal identityAmbiguous bridgeLeft : Bool) :
    CallbackInvariant
      (tracedStep w (.finishEnter thread skipOriginal identityAmbiguous bridgeLeft)) := by
  unfold tracedStep
  dsimp only
  cases hstack : w.world.stack thread with
  | nil =>
    have htraces : w.traces thread = [] := by
      have hframes := h.frames thread
      rw [hstack] at hframes
      exact forall₂_nil_left_iff.mp hframes
    have hstay : (dispatchStep w.world
        (.finishEnter thread skipOriginal identityAmbiguous bridgeLeft)).stack =
          update w.world.stack thread [] := by
      unfold dispatchStep
      dsimp only
      rw [← hstack, update_eq_self]
      simp only [hstack]
    refine h.move hstay ?_
    rw [htraces]
    exact .nil
  | cons frame rest =>
    obtain ⟨trace, traces, htraces, htop, hrest⟩ := h.newest hstack
    refine h.keep htraces hrest ?_
    have hidle : w.world.stack = update w.world.stack thread (frame :: rest) := by
      rw [← hstack, update_eq_self]
    unfold dispatchStep
    dsimp only
    rw [hstack]
    dsimp only
    split
    next count hphase =>
      split
      · exact finishEnter_traced hstack htop hphase skipOriginal bridgeLeft
      · exact Or.inr ⟨frame, hidle, htop⟩
    · exact Or.inr ⟨frame, hidle, htop⟩

theorem CallbackInvariant.prepareInvokeOriginal (nativeFrameSp : Address) :
    CallbackInvariant (tracedStep w (.prepareInvokeOriginal thread nativeFrameSp)) := by
  unfold tracedStep
  dsimp only
  cases hstack : w.world.stack thread with
  | nil =>
    apply h.stay
    change (w.world.prepareInvokeOriginal thread nativeFrameSp).stack = _
    unfold DispatchWorld.prepareInvokeOriginal
    rw [hstack]
  | cons frame rest =>
    by_cases hidle : nativeFrameSp = 0 ∨ frame.invokeOriginalNativeFrame ≠ 0
    · apply h.stay
      change (w.world.prepareInvokeOriginal thread nativeFrameSp).stack = _
      unfold DispatchWorld.prepareInvokeOriginal
      rw [hstack]
      dsimp only
      rw [if_pos hidle]
    · have hafter : (dispatchStep w.world (.prepareInvokeOriginal thread nativeFrameSp)).stack =
          update w.world.stack thread
            ({ frame with invokeOriginalNativeFrame := nativeFrameSp } :: rest) := by
        change (w.world.prepareInvokeOriginal thread nativeFrameSp).stack = _
        unfold DispatchWorld.prepareInvokeOriginal
        rw [hstack]
        dsimp only
        rw [if_neg hidle]
        rfl
      exact h.retop hstack hafter fun trace hfollows => hfollows.congr rfl rfl rfl

/-- The original of the frame on top returns, and its leave callbacks are next. -/
theorem CallbackInvariant.finish (horiginal : topPhase w.world thread = some .original)
    (hafter : (dispatchStep w.world action).stack = (w.world.beginFinish thread).stack) :
    CallbackInvariant (w.dispatched action) := by
  obtain ⟨frame, rest, hstack, hphase⟩ := topPhase_eq_some horiginal
  have hleaving : (w.world.beginFinish thread).stack =
      update w.world.stack thread ({ frame with phase := .leaving } :: rest) := by
    unfold beginFinish
    rw [hstack]
    rfl
  exact h.retop hstack (hafter.trans hleaving) fun trace hfollows => hfollows.finish hphase

theorem CallbackInvariant.returnFromPayload (payload : Address) (returned : EntryContext) :
    CallbackInvariant (tracedStep w (.returnFromPayload thread payload returned)) := by
  unfold tracedStep
  dsimp only
  split
  on_goal 2 => exact h
  next hdue =>
    cases hstack : w.world.stack thread with
    | nil =>
      apply h.stay
      change (w.world.beginReturn thread payload returned).1.stack = _
      unfold beginReturn
      rw [hstack]
    | cons frame rest =>
      by_cases hmatch : frame.matchesReturn payload returned = false
      · apply h.stay
        change (w.world.beginReturn thread payload returned).1.stack = _
        unfold beginReturn
        rw [hstack]
        dsimp only
        rw [if_pos hmatch]
      by_cases hnative : frame.invokeOriginalNativeFrame ≠ 0
      · have hafter : (dispatchStep w.world (.returnFromPayload thread payload returned)).stack =
            update w.world.stack thread
              ({ frame with invokeOriginalNativeFrame := 0 } :: rest) := by
          change (w.world.beginReturn thread payload returned).1.stack = _
          unfold beginReturn
          rw [hstack]
          dsimp only
          rw [if_neg hmatch, if_pos hnative]
          rfl
        exact h.retop hstack hafter fun trace hfollows => hfollows.congr rfl rfl rfl
      · have horiginal : topPhase w.world thread = some .original := by
          refine hdue.resolve_right fun hany => hnative ?_
          rw [hstack, List.head?_cons, Option.any_some] at hany
          exact bne_iff_ne.mp hany
        refine h.finish horiginal ?_
        change (w.world.beginReturn thread payload returned).1.stack = _
        unfold beginReturn
        rw [hstack]
        dsimp only
        rw [if_neg hmatch, if_neg hnative]

theorem CallbackInvariant.exceptionUnwind (targetSpreg targetFp : Address) :
    CallbackInvariant (tracedStep w (.exceptionUnwind thread targetSpreg targetFp)) := by
  unfold tracedStep
  dsimp only
  cases hstack : w.world.stack thread with
  | nil =>
    apply h.stay
    change (w.world.beginUnwind thread targetSpreg targetFp).stack = _
    unfold beginUnwind
    rw [hstack]
  | cons frame rest =>
    by_cases hidle : (targetSpreg = 0 ∧ targetFp = 0) ∨
        frame.unwoundBy targetSpreg targetFp = false
    · apply h.stay
      change (w.world.beginUnwind thread targetSpreg targetFp).stack = _
      unfold beginUnwind
      rw [hstack]
      dsimp only
      rw [if_pos hidle]
    · have hafter : (dispatchStep w.world (.exceptionUnwind thread targetSpreg targetFp)).stack =
          update w.world.stack thread ({ frame with phase := .unwinding } :: rest) := by
        change (w.world.beginUnwind thread targetSpreg targetFp).stack = _
        unfold beginUnwind
        rw [hstack]
        dsimp only
        rw [if_neg hidle]
        rfl
      exact h.retop hstack hafter fun trace hfollows => hfollows.unwind

/-- The frame on top is released with its trace. -/
theorem CallbackInvariant.pop {phase : DispatchPhase}
    (hphase : topPhase w.world thread = some phase)
    (hdue : phase = .leaving ∨ phase = .unwinding) (htraces : w.traces thread = trace :: traces) :
    CallbackInvariant ((w.dispatched (.release thread)).setTraces thread traces) := by
  obtain ⟨frame, rest, hstack, rfl⟩ := topPhase_eq_some hphase
  obtain ⟨trace', traces', htraces', -, hrest⟩ := h.newest hstack
  obtain ⟨rfl, rfl⟩ := cons_eq_cons.mp (htraces.symm.trans htraces')
  refine h.move ?_ hrest
  unfold topPhase at hphase
  unfold dispatchStep
  dsimp only
  rw [hphase]
  rcases hdue with hleaving | hunwinding
  · rw [hleaving]
    exact releaseFrame_stack hstack
  · rw [hunwinding]
    exact releaseFrame_stack hstack

theorem CallbackInvariant.release : CallbackInvariant (tracedStep w (.release thread)) := by
  unfold tracedStep
  dsimp only
  split
  · exact h
  next trace traces htraces =>
    split
    next hleaving =>
      split
      on_goal 2 => exact h
      next hover =>
        obtain ⟨hooks, hframes, hfinished⟩ := h.pop hleaving (Or.inl rfl) htraces
        refine ⟨hooks, hframes, ?_⟩
        intro released hreleased
        rcases mem_cons.mp hreleased with rfl | hreleased
        · obtain ⟨frame, rest, hstack, hphase⟩ := topPhase_eq_some hleaving
          obtain ⟨trace', traces', htraces', ⟨hordered, hfollows⟩, -⟩ := h.newest hstack
          obtain ⟨rfl, rfl⟩ := cons_eq_cons.mp (htraces.symm.trans htraces')
          refine ⟨hordered, hfollows.entered_prefix, ?_⟩
          cases hfollows with
          | leaving _ _ _ left =>
            rcases left with quiet | ⟨owed, hleaves, howed⟩
            · rw [quiet.2] at hover
              cases hover
            · rw [hleaves, Option.any_some, List.isEmpty_iff] at hover
              rw [← howed, hover, append_nil]
          | begun phase => exact absurd (hphase.symm.trans phase) nofun
          | entering count phase => exact absurd (hphase.symm.trans phase) nofun
          | original phase => exact absurd (hphase.symm.trans phase) nofun
          | unwinding phase => exact absurd (hphase.symm.trans phase) nofun
        · exact hfinished released hreleased
    · split
      next hunwinding => exact h.pop hunwinding (Or.inr rfl) htraces
      · exact h

/-- A step of dispatch keeps the traces. -/
theorem CallbackInvariant.traced (action : DispatchAction β H T) :
    CallbackInvariant (tracedStep w action) := by
  cases action with
  | registry hook op => exact h.stay (registryStep_stack w.world hook op)
  | enter thread hook context storage current => exact h.enter hook context storage current
  | setup thread reading => exact h.setup reading
  | enterCallback thread => exact h.enterCallback
  | finishEnter thread skipOriginal identityAmbiguous bridgeLeft =>
    exact h.finishEnter skipOriginal identityAmbiguous bridgeLeft
  | prepareInvokeOriginal thread nativeFrameSp => exact h.prepareInvokeOriginal nativeFrameSp
  | returnFromPayload thread payload returned => exact h.returnFromPayload payload returned
  | leaveFromTls thread =>
    unfold tracedStep
    dsimp only
    split
    next horiginal => exact h.finish horiginal rfl
    · exact h
  | exceptionUnwind thread targetSpreg targetFp => exact h.exceptionUnwind targetSpreg targetFp
  | release thread => exact h.release

omit [DecidableEq H] in
/-- The newest trace changes beside its frame. -/
theorem CallbackInvariant.retrace
    (hstack : w.world.stack thread = frame :: rest) (htraces : w.traces thread = trace :: traces)
    {change : InvocationTrace β → InvocationTrace β}
    (hchange : TracedFrame frame trace → TracedFrame frame (change trace)) :
    CallbackInvariant (w.setTraces thread ((w.traces thread).modifyHead change)) where
  hooks := h.hooks
  frames other := by
    change List.Forall₂ TracedFrame (w.world.stack other)
      (update w.traces thread ((w.traces thread).modifyHead change) other)
    have hframes := h.frames thread
    by_cases heq : other = thread
    · rw [heq, update_self, hstack, htraces]
      rw [hstack, htraces] at hframes
      obtain ⟨htop, hrest⟩ := forall₂_cons.mp hframes
      exact .cons (hchange htop) hrest
    · rw [update_of_ne heq]
      exact h.frames other
  finished := h.finished

theorem CallbackInvariant.beginLeave (bridgeEntered : Bool) :
    CallbackInvariant (callbackStep w (.beginLeave thread bridgeEntered)) := by
  unfold callbackStep
  dsimp only
  split
  · exact h
  next frame rest hstack =>
    split
    on_goal 2 => exact h
    next hleaving =>
      obtain ⟨trace, traces, htraces, -, -⟩ := h.newest hstack
      refine h.retrace hstack htraces ?_
      rintro ⟨hordered, hfollows⟩
      split
      on_goal 2 => exact ⟨hordered, hfollows⟩
      next hnone =>
        refine ⟨hordered, ?_⟩
        cases hfollows with
        | leaving phase listeners entered left =>
          have hquiet : trace.Quiet := by
            rcases left with quiet | ⟨owed, hleaves, -⟩
            · exact quiet
            · rw [hleaves] at hnone
              cases hnone
          refine .leaving phase listeners entered (Or.inr ⟨_, rfl, ?_⟩)
          dsimp only
          rw [hquiet.1, nil_append, listeners]
          rfl
        | begun phase => exact absurd (hleaving.symm.trans phase) nofun
        | entering count phase => exact absurd (hleaving.symm.trans phase) nofun
        | original phase => exact absurd (hleaving.symm.trans phase) nofun
        | unwinding phase => exact absurd (hleaving.symm.trans phase) nofun

theorem CallbackInvariant.leaveCallback :
    CallbackInvariant (callbackStep w (.leaveCallback thread)) := by
  unfold callbackStep
  dsimp only
  split
  on_goal 2 => exact h
  next hphase =>
    obtain ⟨frame, rest, hstack, hleaving⟩ := topPhase_eq_some hphase
    obtain ⟨trace, traces, htraces, -, -⟩ := h.newest hstack
    refine h.retrace hstack htraces ?_
    rintro ⟨hordered, hfollows⟩
    split
    on_goal 2 => exact ⟨hordered, hfollows⟩
    next listener owed hleaves =>
      refine ⟨hordered, ?_⟩
      cases hfollows with
      | leaving phase listeners entered left =>
        refine .leaving phase listeners entered (Or.inr ⟨owed, rfl, ?_⟩)
        rcases left with quiet | ⟨owed', hleaves', howed⟩
        · rw [quiet.2] at hleaves
          cases hleaves
        · obtain rfl := Option.some.inj (hleaves.symm.trans hleaves')
          change trace.left ++ [listener] ++ owed = trace.owedLeaves
          rw [← howed, append_assoc, singleton_append]
      | begun phase => exact absurd (hleaving.symm.trans phase) nofun
      | entering count phase => exact absurd (hleaving.symm.trans phase) nofun
      | original phase => exact absurd (hleaving.symm.trans phase) nofun
      | unwinding phase => exact absurd (hleaving.symm.trans phase) nofun

theorem CallbackInvariant.step (action : CallbackAction β H T) :
    CallbackInvariant (callbackStep w action) := by
  cases action with
  | dispatch action => exact h.traced action
  | beginLeave thread bridgeEntered => exact h.beginLeave bridgeEntered
  | leaveCallback thread => exact h.leaveCallback

theorem CallbackInvariant.run (actions : List (CallbackAction β H T)) :
    CallbackInvariant (actions.foldl callbackStep w) := by
  induction actions generalizing w with
  | nil => exact h
  | cons action actions ih => exact ih (h.step action)

end Steps

/-! ## Every run -/

section Runs
variable {β H T : Type}

/-- The enter callbacks ran for a prefix of the admitted listeners, in callback order and each once,
and the leave callbacks that ran are the last of them, in reverse. -/
structure InCallbackOrder (trace : InvocationTrace β) : Prop where
  entered : trace.entered <+: trace.admitted
  admitted : trace.admitted.Sublist trace.record.listeners
  order : trace.entered.Pairwise fun l m => l.before m = true
  once : trace.entered.Nodup
  left : trace.left <+: trace.entered.reverse

theorem inCallbackOrder {trace : InvocationTrace β} (hordered : CallbackOrdered trace.record)
    (hentered : trace.entered <+: trace.admitted) (hleft : trace.left <+: trace.entered.reverse) :
    InCallbackOrder trace := by
  have hsublist := hentered.sublist.trans trace.admitted_sublist
  exact ⟨hentered, trace.admitted_sublist, hordered.ordered.sublist hsublist,
    hordered.nodup.sublist hsublist, hleft⟩

/-- A process without frames, whose hooks have their listeners in order. -/
structure CallbackStart (world : DispatchWorld β H T) : Prop where
  hooks : ∀ hook, CallbackOrdered (world.hooks hook).record
  stack : ∀ thread, world.stack thread = []

/-- In every run the listeners of every hook stay in callback order, the callbacks of every
invocation run in order, and a frame that was released after a return ran the leave callback of
every listener that was entered, in reverse, unless its generated bridge could not be entered
again. -/
theorem callbacks_in_order [DecidableEq H] [DecidableEq T] {world : DispatchWorld β H T}
    (hstart : CallbackStart world) (actions : List (CallbackAction β H T)) :
    let w := actions.foldl callbackStep ⟨world, fun _ => [], []⟩
    (∀ hook, (w.world.hooks hook).record.listeners.Pairwise fun l m => l.before m = true) ∧
      (∀ thread, (w.traces thread).length = (w.world.stack thread).length ∧
        ∀ trace ∈ w.traces thread, InCallbackOrder trace) ∧
      ∀ trace ∈ w.finished, InCallbackOrder trace ∧
        trace.left =
          if trace.generated = true ∧ trace.leaveBridge = false then []
          else trace.entered.reverse := by
  intro w
  have hinv : CallbackInvariant w := by
    apply CallbackInvariant.run
    refine ⟨hstart.hooks, fun thread => ?_, fun _ hmem => absurd hmem not_mem_nil⟩
    dsimp only
    rw [hstart.stack thread]
    exact .nil
  refine ⟨fun hook => (hinv.hooks hook).ordered, fun thread => ?_, fun trace htrace => ?_⟩
  · have hframes := hinv.frames thread
    refine ⟨hframes.length_eq.symm, fun trace htrace => ?_⟩
    obtain ⟨index, hindex, rfl⟩ := mem_iff_getElem.mp htrace
    have hbound : index < (w.world.stack thread).length := by
      rw [hframes.length_eq]
      exact hindex
    obtain ⟨hordered, hfollows⟩ := hframes.get hbound hindex
    exact inCallbackOrder hordered hfollows.entered_prefix hfollows.left_prefix
  · obtain ⟨hordered, hentered, hleft⟩ := hinv.finished trace htrace
    refine ⟨inCallbackOrder hordered hentered ?_, ?_⟩
    · rw [hleft]
      exact trace.owedLeaves_prefix
    · rw [hleft, InvocationTrace.owedLeaves, InvocationTrace.leavesRun]
      cases trace.generated with
      | false => simp
      | true => cases trace.leaveBridge <;> simp

end Runs

/-- One installed Dart hook with a listener that has an adapter, and one thread. -/
def bridgedWorld : DispatchWorld Unit Unit Unit where
  hooks := fun _ => {
    registry := startListening {
      target := 0x1000
      hasMethod := true
      sharedCodeOptIn := false
      state := .installed
      active := true
      inFlight := 0
      backendInstalled := true
      entryReady := true
      exceptionBridgeConsumer := true
      boundToCodeTarget := true
      vmAdapterRetained := false
      nextListenerId := 2
      nextRegistrationOrder := 2
      listenerHandles := 1
      listeners := [⟨1, 0, 1, true, ()⟩] } (some installedGate)
    realDart := true
    payload := 0x1000 }
  listenerInFlight := fun _ _ => 0
  stack := fun _ => []

theorem bridgedWorld_start : CallbackStart bridgedWorld where
  hooks _ := by
    refine ⟨pairwise_singleton _ _, fun listener hlistener => ?_⟩
    obtain rfl := mem_singleton.mp hlistener
    exact Nat.lt_succ_self 1
  stack _ := rfl

/-- The listener is entered in the generated bridge and the original returns; `bridgeEntered` is
whether the bridge can be entered again. -/
def bridgedRun (bridgeEntered : Bool) : List (CallbackAction Unit Unit Unit) :=
  [.dispatch (.enter () () ⟨0x30, 0x8000, 0x9000⟩ true fun _ => true),
    .dispatch (.setup () ⟨fun _ => true, fun _ _ => true, fun _ => true, false, true, true, true⟩),
    .dispatch (.enterCallback ()), .dispatch (.finishEnter () false false true),
    .dispatch (.returnFromPayload () 0x1000 ⟨0x30, 0x8000, 0x9000⟩), .beginLeave () bridgeEntered,
    .leaveCallback (), .dispatch (.release ())]

theorem callbacks_in_order_bridged :
    let w := (bridgedRun true).foldl callbackStep ⟨bridgedWorld, fun _ => [], []⟩
    (w.finished.map fun trace => (trace.entered.map ListenerRecord.id,
        trace.left.map ListenerRecord.id)) = [([1], [1])] ∧
      ∀ trace ∈ w.finished, InCallbackOrder trace ∧
        trace.left =
          if trace.generated = true ∧ trace.leaveBridge = false then []
          else trace.entered.reverse := by
  refine ⟨rfl, ?_⟩
  exact (callbacks_in_order bridgedWorld_start (bridgedRun true)).2.2

/-- The original of an entered listener returns, and its leave callback never runs. -/
theorem entered_listener_not_left :
    CallbackStart bridgedWorld ∧
      (((bridgedRun false).foldl callbackStep ⟨bridgedWorld, fun _ => [], []⟩).finished.map
        fun trace => (trace.entered.map ListenerRecord.id,
          trace.left.map ListenerRecord.id)) = [([1], [])] := by
  refine ⟨bridgedWorld_start, ?_⟩
  rfl

end DartPlant
