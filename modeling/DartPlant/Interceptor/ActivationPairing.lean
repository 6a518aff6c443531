import DartPlant.Interceptor.InFlight
import DartPlant.Lib.Runs
import Mathlib.Data.List.Forall2

/-! # Pairing of returns and unwinds

The dispatcher never sees an activation: it sees an entry, later a RET of some payload, and the
target of a jump to an exception handler.  Here the activations of one thread are kept beside the
dispatch stack, and every event of their history is dispatched as the entry stubs, the RET veneers
and the bridge of `JumpToFrame` do.  `WellNested` is what the calls, returns and jumps of Dart code
satisfy.

An activation is tracked when its entry left a frame on the dispatch stack.  One that was passed
through, because the stack was full or could not be set up, runs the same code and returns through
the same veneers as a tracked one.

The callbacks of an activation run between its entry and its body, and between its return and the
release of its frame; the Dart code they call is part of the history.  A callback that invokes the
original itself is left out, and the Dart code of an exception callback is over when it returns.
-/

namespace DartPlant
open DispatchWorld Function List

open Runs

/-- A call: the hook of its entry, the payload of its code, the registers at its entry, and whether
it sets up a frame. -/
structure DartCall (H : Type) where
  hook : Option H
  payload : Address
  entry : EntryContext
  framed : Bool

structure Activation (H : Type) extends DartCall H where
  tracked : Bool

open Activation

/-- The callee is below the caller on the stack, which grows downward. -/
def DartCall.Below {H : Type} (callee caller : DartCall H) : Prop :=
  callee.entry.spreg < caller.entry.spreg ∧ callee.entry.callerFp ≤ caller.entry.callerFp ∧
    (caller.framed → callee.entry.callerFp < caller.entry.callerFp)

/-- What happens next on the thread: a call, a piece of the dispatch of its entry, a RET, the end of
the leave callbacks, or a jump that unwinds the newest `count` activations; or elsewhere. -/
inductive ActivationEvent (β H T : Type) where
  | call (called : DartCall H) (storage : Bool) (current : β → Bool)
  | setup (reading : SetupReading β)
  | enterCallback
  | finishEnter (skipOriginal identityAmbiguous bridgeLeft : Bool)
  | ret (intercepted : Bool)
  | release
  | jump (count : Nat) (targetSpreg targetFp : Address)
  | elsewhere (action : DispatchAction β H T)

def DispatchAction.thread? {β H T : Type} : DispatchAction β H T → Option T
  | .registry _ _ => none
  | .enter thread _ _ _ _ => some thread
  | .setup thread _ => some thread
  | .enterCallback thread => some thread
  | .finishEnter thread _ _ _ => some thread
  | .prepareInvokeOriginal thread _ => some thread
  | .returnFromPayload thread _ _ => some thread
  | .leaveFromTls thread => some thread
  | .exceptionUnwind thread _ _ => some thread
  | .release thread => some thread

/-- The dispatch world, and the activations of the thread, the newest first. -/
structure ActivationWorld (β H T : Type) where
  world : DispatchWorld β H T
  activations : List (Activation H)

section Step
variable {β H T : Type} [DecidableEq H] [DecidableEq T]

/-- A piece of the entry dispatch of the newest activation ends: it goes on without a result, is
over when there is no original to run, and is tracked as long as its frame is the `depth`-th. -/
def settle (thread : T) (depth : Nat) (activation : Activation H) (rest : List (Activation H))
    (outcome : DispatchWorld β H T × Option DispatchResult) : ActivationWorld β H T :=
  match outcome.2 with
  | none => ⟨outcome.1, activation :: rest⟩
  | some result =>
    if result.original.isNone then ⟨outcome.1, rest⟩
    else ⟨outcome.1, { activation with
      tracked := decide (depth ≤ (outcome.1.stack thread).length) } :: rest⟩

/-- A piece of a dispatch that is due only when the frame on top is the newest activation's. -/
def onOwnFrame (thread : T) (s : ActivationWorld β H T)
    (piece : Activation H → List (Activation H) → DispatchFrame β H → ActivationWorld β H T) :
    ActivationWorld β H T :=
  match s.activations, s.world.stack thread with
  | activation :: rest, frame :: _ => if activation.tracked then piece activation rest frame else s
  | _, _ => s

/-- One event of the history. -/
def activationStep (thread : T) (s : ActivationWorld β H T) :
    ActivationEvent β H T → ActivationWorld β H T
  | .call called storage current =>
    match called.hook with
    | none => { s with activations := ⟨called, false⟩ :: s.activations }
    | some hook =>
      settle thread ((s.world.stack thread).length + 1) ⟨called, true⟩ s.activations
        (s.world.beginDispatch thread hook called.entry storage current)
  | .setup reading =>
    onOwnFrame thread s fun activation rest frame =>
      if frame.phase = .begun then
        settle thread (s.world.stack thread).length activation rest
          (s.world.setupDispatch thread reading)
      else s
  | .enterCallback =>
    onOwnFrame thread s fun _ _ _ => { s with world := s.world.enterCallback thread }
  | .finishEnter skipOriginal identityAmbiguous bridgeLeft =>
    onOwnFrame thread s fun activation rest frame =>
      match frame.phase with
      | .entering count =>
        if entersDone s.world frame skipOriginal identityAmbiguous count then
          settle thread (s.world.stack thread).length activation rest
            (s.world.finishEnter thread count skipOriginal bridgeLeft)
        else s
      | _ => s
  | .ret intercepted =>
    match s.activations with
    | [] => s
    | activation :: rest =>
      if intercepted then
        match s.world.beginReturn thread activation.payload activation.entry with
        -- The leave callbacks are next; the activation ends with them.
        | (world, .finish) => ⟨world, activation :: rest⟩
        | (world, _) => ⟨world, rest⟩
      else { s with activations := rest }
  | .release =>
    onOwnFrame thread s fun _ rest frame =>
      if frame.phase = .leaving then ⟨s.world.releaseFrame thread, rest⟩ else s
  | .jump count targetSpreg targetFp =>
    ⟨s.world.dispatchExceptionUnwind thread targetSpreg targetFp, s.activations.drop count⟩
  | .elsewhere action => { s with world := dispatchStep s.world action }

/-! ## Well-nested histories -/

/-- A call is made below the caller, and the entry of a hooked function is one of the payload of its
hook.  The body of a tracked activation returns through a veneer, as its hook keeps the payload
intercepted.  A jump ends in a framed activation, whose FP is the one its callee saw, or above all
of them.  What happens elsewhere is not on this thread. -/
def WellNested (thread : T) (s : ActivationWorld β H T) : ActivationEvent β H T → Prop
  | .call called _ _ =>
    called.entry.callerFp ≠ nullptr ∧
      (∀ hook ∈ called.hook, (s.world.hooks hook).payload = called.payload ∧
        called.payload ≠ nullptr) ∧
      ∀ caller ∈ s.activations.head?, called.Below caller.toDartCall
  | .ret intercepted =>
    ∀ activation ∈ s.activations.head?, activation.tracked = true →
      intercepted = true ∧ ∀ frame ∈ (s.world.stack thread).head?, frame.phase = .original
  | .jump count targetSpreg targetFp =>
    count ≤ s.activations.length ∧
      (∀ callee ∈ (s.activations.take count).getLast?, callee.entry.callerFp ≤ targetFp) ∧
      ∀ handler ∈ (s.activations.drop count).head?, handler.framed = true ∧
        targetFp < handler.entry.callerFp ∧ targetSpreg ≤ handler.entry.spreg
  | .elsewhere action => action.thread? ≠ some thread
  | _ => True

/-- The frame was pushed at the entry of this activation. -/
structure OwnFrame (activation : Activation H) (frame : DispatchFrame β H) : Prop where
  payload : frame.physicalReturnPayload = activation.payload
  returnLr : frame.returnLr = activation.entry.lr
  entrySpreg : frame.entrySpreg = activation.entry.spreg
  entryCallerFp : frame.entryCallerFp = activation.entry.callerFp
  direct : frame.invokeOriginalNativeFrame = nullptr

/-- The frames of the stack are those of the live tracked activations, in their order, and the
dispatch depth is their number. -/
def TrackedInOrder (thread : T) (s : ActivationWorld β H T) : Prop :=
  List.Forall₂ OwnFrame (s.activations.filter tracked) (s.world.stack thread) ∧
    (s.world.stack thread).length = s.activations.countP tracked

/-- An intercepted RET of a tracked activation finishes its frame, which is no other activation's,
and a RET of an untracked one finishes nothing.  The release pops the frame that was finished.  A
jump abandons exactly the frames of the activations it unwinds. -/
def ResolvesOwn (thread : T) (s : ActivationWorld β H T) (event : ActivationEvent β H T) : Prop :=
  let after := activationStep thread s event
  match event with
  | .ret _ => ∀ activation rest, s.activations = activation :: rest →
    (activation.tracked = true → ∃ frame frames, s.world.stack thread = frame :: frames ∧
      OwnFrame activation frame ∧ (∀ other ∈ rest, ¬ OwnFrame other frame) ∧
      after.world.stack thread = { frame with phase := .leaving } :: frames ∧
      after.activations = activation :: rest) ∧
    (activation.tracked = false → after = { s with activations := rest })
  | .release => ∀ activation rest frame frames, s.activations = activation :: rest →
    s.world.stack thread = frame :: frames → activation.tracked = true → frame.phase = .leaving →
      OwnFrame activation frame ∧ after.world.stack thread = frames ∧ after.activations = rest
  | .jump count _ _ => ∃ abandoned,
    s.world.stack thread = abandoned ++ after.world.stack thread ∧
      List.Forall₂ OwnFrame ((s.activations.take count).filter tracked) abandoned
  | _ => True

/-! ## What a piece of a dispatch does to the stacks -/

section Stack
variable {world : DispatchWorld β H T} {thread : T} {frame : DispatchFrame β H}
  {rest : List (DispatchFrame β H)}

omit [DecidableEq H] in
theorem setStack_stack (frames : List (DispatchFrame β H)) :
    (world.setStack thread frames).stack = update world.stack thread frames := rfl

theorem releaseFrame_stack (hstack : world.stack thread = frame :: rest) :
    (world.releaseFrame thread).stack = update world.stack thread rest := by
  unfold releaseFrame
  rw [hstack]
  dsimp only
  cases frame.hook with
  | none => rfl
  | some hook =>
    have hleft := (leaveListeners_frame hook frame.enteredListeners world).2
    show update (leaveListeners hook frame.enteredListeners world).stack
      thread rest = _
    rw [hleft]

/-- What a match reads of a frame is fixed at its entry. -/
structure SameEntry (frame after : DispatchFrame β H) : Prop where
  payload : after.physicalReturnPayload = frame.physicalReturnPayload
  returnLr : after.returnLr = frame.returnLr
  entrySpreg : after.entrySpreg = frame.entrySpreg
  entryCallerFp : after.entryCallerFp = frame.entryCallerFp
  direct : after.invokeOriginalNativeFrame = frame.invokeOriginalNativeFrame

/-- Dispatch goes on with the frame on top, or has popped it and says what runs instead. -/
def KeepsOrPops (world : DispatchWorld β H T) (thread : T) (frame : DispatchFrame β H)
    (rest : List (DispatchFrame β H)) (outcome : DispatchWorld β H T × Option DispatchResult) :
    Prop :=
  (outcome.1.stack = update world.stack thread rest ∧ outcome.2.isSome = true) ∨
    ∃ after, outcome.1.stack = update world.stack thread (after :: rest) ∧
      SameEntry frame after ∧ ∀ result ∈ outcome.2, result.original.isNone = false

omit [DecidableEq H] in
theorem keepsOrPops_self (hstack : world.stack thread = frame :: rest) :
    KeepsOrPops world thread frame rest (world, none) := by
  refine .inr ⟨frame, ?_, ⟨rfl, rfl, rfl, rfl, rfl⟩, nofun⟩
  rw [← hstack, update_eq_self]

/-- A frame that could not be set up is released, whatever became of its listeners. -/
theorem keepsOrPops_release {top : DispatchFrame β H} {before : DispatchWorld β H T}
    (hbefore : before.stack = update world.stack thread (top :: rest))
    (result : DispatchResult) :
    KeepsOrPops world thread frame rest (before.releaseFrame thread, some result) := by
  have htop : before.stack thread = top :: rest := by rw [hbefore, update_self]
  refine .inl ⟨?_, rfl⟩
  rw [releaseFrame_stack htop, hbefore, update_idem]

omit [DecidableEq H] in
theorem keepsOrPops_keep {before : DispatchWorld β H T} {after : DispatchFrame β H}
    {result : Option DispatchResult}
    (hset : ∀ frames, (before.setStack thread frames).stack =
      update world.stack thread frames)
    (hsame : SameEntry frame after) (hresult : ∀ r ∈ result, r.original.isNone = false) :
    KeepsOrPops world thread frame rest (before.setStack thread (after :: rest), result) :=
  .inr ⟨after, hset _, hsame, hresult⟩

theorem setupDispatch_stack (hstack : world.stack thread = frame :: rest)
    (reading : SetupReading β) :
    KeepsOrPops world thread frame rest (world.setupDispatch thread reading) := by
  unfold setupDispatch
  rw [hstack]
  dsimp only
  cases frame.hook with
  | none => exact keepsOrPops_self hstack
  | some hook =>
    dsimp only
    generalize reading.filterOwners frame.enteredListeners = split
    generalize reading.bindOwner split.1 = bound
    have hleft : (leaveListeners hook bound.2
        (leaveListeners hook split.2 world)).stack = world.stack := by
      rw [(leaveListeners_frame ..).2, (leaveListeners_frame ..).2]
    generalize leaveListeners hook bound.2
        (leaveListeners hook split.2 world) = left at hleft
    have hfiltered (frames : List (DispatchFrame β H)) :
        (left.setStack thread frames).stack = update world.stack thread frames := by
      rw [setStack_stack, hleft]
    have hhanded (gated : Bool) (frames : List (DispatchFrame β H)) :
        (if gated then (left.setStack thread frames).releaseEntrant hook
          else left.setStack thread frames).stack = update world.stack thread frames := by
      cases gated with
      | false => exact hfiltered frames
      | true => exact hfiltered frames
    split
    · exact keepsOrPops_release (hfiltered _) _
    split
    · exact keepsOrPops_release (hfiltered _) _
    split
    · exact keepsOrPops_release (hfiltered _) _
    split
    · refine keepsOrPops_keep (fun frames => ?_) ⟨rfl, rfl, rfl, rfl, rfl⟩ ?_
      · rw [setStack_stack, (leaveListeners_frame ..).2, hhanded, update_idem]
      · rintro result ⟨⟩
        rfl
    · refine keepsOrPops_keep (fun frames => ?_) ⟨rfl, rfl, rfl, rfl, rfl⟩ nofun
      rw [setStack_stack, hhanded, update_idem]

theorem finishEnter_stack (hstack : world.stack thread = frame :: rest) (count : ℕ)
    (skipOriginal bridgeLeft : Bool) :
    KeepsOrPops world thread frame rest
      (world.finishEnter thread count skipOriginal bridgeLeft) := by
  unfold finishEnter
  rw [hstack]
  dsimp only
  cases frame.hook with
  | none => exact keepsOrPops_self hstack
  | some hook =>
    dsimp only
    have htrimmed (frames : List (DispatchFrame β H)) :
        ((leaveListeners hook (frame.enteredListeners.drop count) world).setStack
          thread frames).stack = update world.stack thread frames := by
      rw [setStack_stack, (leaveListeners_frame ..).2]
    split
    · exact keepsOrPops_release (htrimmed _) _
    split
    · exact keepsOrPops_keep htrimmed ⟨rfl, rfl, rfl, rfl, rfl⟩ nofun
    · refine keepsOrPops_keep htrimmed ⟨rfl, rfl, rfl, rfl, rfl⟩ ?_
      rintro result ⟨⟩
      rfl

omit [DecidableEq H] in
theorem enterCallback_stack (hstack : world.stack thread = frame :: rest) :
    KeepsOrPops world thread frame rest (world.enterCallback thread, none) := by
  unfold enterCallback
  rw [hstack]
  dsimp only
  split
  · split
    · exact keepsOrPops_keep setStack_stack ⟨rfl, rfl, rfl, rfl, rfl⟩ nofun
    · exact keepsOrPops_self hstack
  · exact keepsOrPops_self hstack

/-- An entry that is dispatched without a result has its frame on top; one with a result either has
none, or has one and runs its original. -/
def PushesOrPasses (world : DispatchWorld β H T) (thread : T) (activation : Activation H)
    (outcome : DispatchWorld β H T × Option DispatchResult) : Prop :=
  (outcome.1.stack = world.stack ∧ outcome.2.isSome = true) ∨
    ∃ frame, outcome.1.stack = update world.stack thread (frame :: world.stack thread) ∧
      OwnFrame activation frame ∧ ∀ result ∈ outcome.2, result.original.isNone = false

omit [DecidableEq H] in
theorem pushesOrPasses_push {activation : Activation H} {before : DispatchWorld β H T}
    {result : Option DispatchResult} (hbefore : before.stack = world.stack)
    (hown : OwnFrame activation frame) (hresult : ∀ r ∈ result, r.original.isNone = false) :
    PushesOrPasses world thread activation
      (before.setStack thread (frame :: world.stack thread), result) := by
  refine .inr ⟨frame, ?_, hown, hresult⟩
  rw [setStack_stack, hbefore]

theorem beginDispatch_stack (world : DispatchWorld β H T) (thread : T)
    (activation : Activation H) {hook : H}
    (hpayload : (world.hooks hook).payload = activation.payload) (storage : Bool)
    (current : β → Bool) :
    PushesOrPasses world thread activation
      (world.beginDispatch thread hook activation.entry storage current) := by
  have hreleased (released : Prop) [Decidable released] :
      (if released then world.releaseEntrant hook else world).stack = world.stack := by
    split
    · rfl
    · rfl
  unfold beginDispatch
  dsimp only
  split
  · exact .inl ⟨rfl, rfl⟩
  split
  · exact .inl ⟨rfl, rfl⟩
  split
  · refine .inl ⟨?_, rfl⟩
    split
    · rfl
    · rfl
  split
  · split
    · exact .inl ⟨hreleased _, rfl⟩
    · rw [hreleased]
      refine pushesOrPasses_push (hreleased _) ⟨hpayload, rfl, rfl, rfl, rfl⟩ ?_
      rintro result ⟨⟩
      rfl
  · refine pushesOrPasses_push ?_ ⟨hpayload, rfl, rfl, rfl, rfl⟩ nofun
    rw [(enterListeners_frame ..).2]
    rfl

/-! ### Elsewhere -/

omit [DecidableEq H] in
theorem KeepsOrPops.elsewhere {outcome : DispatchWorld β H T × Option DispatchResult} {other : T}
    (h : KeepsOrPops world other frame rest outcome) (hother : other ≠ thread) :
    outcome.1.stack thread = world.stack thread := by
  obtain ⟨hstack, -⟩ | ⟨after, hstack, -, -⟩ := h
  · rw [hstack, update_of_ne hother.symm]
  · rw [hstack, update_of_ne hother.symm]

omit [DecidableEq H] in
theorem Retopped.elsewhere {after : DispatchWorld β H T} {other : T}
    (h : Retopped world other after) (hother : some other ≠ some thread) :
    after.stack thread = world.stack thread := by
  cases h with
  | same => rfl
  | top => exact update_of_ne (fun heq => hother (congrArg some heq.symm)) ..

omit [DecidableEq T] in
theorem registryStep_stack (world : DispatchWorld β H T) (hook : H) (op : ListenerOp β) :
    (registryStep world hook op).stack = world.stack := by
  cases op with
  | add request =>
    unfold registryStep
    dsimp only
    split
    · rfl
    · rfl
  | _ => rfl

/-- A step of another thread, or of the registry, leaves the stack of this one alone. -/
theorem dispatchStep_elsewhere {action : DispatchAction β H T}
    (hother : action.thread? ≠ some thread) :
    (dispatchStep world action).stack thread = world.stack thread := by
  cases action with
  | registry hook op => exact congrFun (registryStep_stack world hook op) thread
  | enter other hook context storage current =>
    have hne : other ≠ thread := fun h => hother (congrArg some h)
    have hbegun := beginDispatch_stack world other
      ⟨⟨some hook, (world.hooks hook).payload, context, true⟩, true⟩ rfl storage current
    obtain ⟨hstack, -⟩ | ⟨frame, hstack, -, -⟩ := hbegun
    · exact congrFun hstack thread
    · exact (congrFun hstack thread).trans (update_of_ne hne.symm ..)
  | setup other reading =>
    have hne : other ≠ thread := fun h => hother (congrArg some h)
    unfold dispatchStep
    dsimp only
    split
    · cases hstack : world.stack other with
      | nil =>
        unfold setupDispatch
        rw [hstack]
      | cons frame rest => exact (setupDispatch_stack hstack reading).elsewhere hne
    · rfl
  | enterCallback other => exact (enterCallback_retops world other).elsewhere hother
  | finishEnter other skipOriginal identityAmbiguous bridgeLeft =>
    have hne : other ≠ thread := fun h => hother (congrArg some h)
    unfold dispatchStep
    dsimp only
    split
    · rfl
    · next frame rest hstack =>
      split
      · split
        · exact (finishEnter_stack hstack ..).elsewhere hne
        · rfl
      · rfl
  | prepareInvokeOriginal other nativeFrameSp =>
    exact (prepareInvokeOriginal_retops world other nativeFrameSp).elsewhere hother
  | returnFromPayload other payload returned =>
    exact (beginReturn_retops world other payload returned).elsewhere hother
  | leaveFromTls other => exact (beginFinish_retops world other).elsewhere hother
  | exceptionUnwind other targetSpreg targetFp =>
    exact (beginUnwind_retops world other targetSpreg targetFp).elsewhere hother
  | release other =>
    have hne : other ≠ thread := fun h => hother (congrArg some h)
    have hreleased : (world.releaseFrame other).stack thread = world.stack thread := by
      cases hstack : world.stack other with
      | nil =>
        unfold releaseFrame
        rw [hstack]
      | cons frame rest =>
        rw [releaseFrame_stack hstack, update_of_ne hne.symm]
    unfold dispatchStep
    dsimp only
    split
    · exact hreleased
    · exact hreleased
    · rfl

/-! ### Unwinding -/

theorem unwindLoop_stack (targetSpreg targetFp : Address)
    (htarget : ¬ (targetSpreg = 0 ∧ targetFp = 0)) (turns : ℕ) {world : DispatchWorld β H T}
    (hturns : (world.stack thread).length ≤ turns) :
    (unwindLoop thread targetSpreg targetFp turns world).stack thread =
      (world.stack thread).dropWhile fun frame => frame.unwoundBy targetSpreg targetFp := by
  induction turns generalizing world with
  | zero =>
    have hempty : world.stack thread = [] := length_eq_zero_iff.mp (Nat.le_zero.mp hturns)
    rw [unwindLoop, hempty, dropWhile_nil]
  | succ turns ih =>
    rw [unwindLoop]
    cases hstack : world.stack thread with
    | nil => exact hstack
    | cons frame rest =>
      dsimp only
      rw [hstack, length_cons] at hturns
      cases hunwound : frame.unwoundBy targetSpreg targetFp with
      | false =>
        simp only [dropWhile_cons, hunwound, Bool.false_eq_true, if_false]
        exact hstack
      | true =>
        have hbegun : (world.beginUnwind thread targetSpreg targetFp).stack thread =
            { frame with phase := .unwinding } :: rest := by
          unfold beginUnwind
          rw [hstack]
          dsimp only
          rw [if_neg (by simp only [htarget, hunwound, Bool.true_eq_false, or_self,
            not_false_eq_true])]
          exact setStack_self
        have hreleased : ((world.beginUnwind thread targetSpreg targetFp).releaseFrame
            thread).stack thread = rest := by
          rw [releaseFrame_stack hbegun, update_self]
        rw [if_pos rfl, ih (hreleased ▸ Nat.le_of_succ_le_succ hturns), hreleased]
        simp only [dropWhile_cons, hunwound, if_true]

/-- An unwind pops the frames from the top that are above the handler. -/
theorem dispatchExceptionUnwind_stack (targetSpreg targetFp : Address)
    (htarget : ¬ (targetSpreg = 0 ∧ targetFp = 0)) :
    (world.dispatchExceptionUnwind thread targetSpreg targetFp).stack thread =
      (world.stack thread).dropWhile fun frame => frame.unwoundBy targetSpreg targetFp := by
  rw [dispatchExceptionUnwind, if_neg htarget,
    unwindLoop_stack targetSpreg targetFp htarget _ (Nat.le_refl _)]

end Stack

/-! ## The invariant -/

section Invariant
variable {thread : T} {s : ActivationWorld β H T} {activation : Activation H}
  {rest : List (Activation H)} {frame : DispatchFrame β H} {frames : List (DispatchFrame β H)}

omit [DecidableEq H] in
theorem DartCall.Below.trans {callee caller outer : DartCall H} (h : callee.Below caller)
    (h' : caller.Below outer) : callee.Below outer := by
  obtain ⟨hspreg, hfp, -⟩ := h
  obtain ⟨hspreg', hfp', hframed'⟩ := h'
  refine ⟨BitVec.lt_trans hspreg hspreg', BitVec.le_trans hfp hfp', fun hframed => ?_⟩
  have hfp'' := hframed' hframed
  bv_omega

/-- The activations as the calls of a well-nested history leave them. -/
structure NestedActivations (activations : List (Activation H)) : Prop where
  below : activations.Pairwise fun callee caller => callee.Below caller.toDartCall
  callerFp : ∀ activation ∈ activations, activation.entry.callerFp ≠ nullptr
  payload : ∀ activation ∈ activations, activation.tracked = true → activation.payload ≠ nullptr

omit [DecidableEq H] in
theorem NestedActivations.drop {activations : List (Activation H)}
    (h : NestedActivations activations) (count : ℕ) :
    NestedActivations (activations.drop count) where
  below := h.below.sublist (drop_sublist count activations)
  callerFp a ha := h.callerFp a (mem_of_mem_drop ha)
  payload a ha := h.payload a (mem_of_mem_drop ha)

omit [DecidableEq H] in
theorem NestedActivations.tail (h : NestedActivations (activation :: rest)) :
    NestedActivations rest :=
  h.drop 1

omit [DecidableEq H] in
theorem NestedActivations.push (h : NestedActivations rest)
    (hcallerFp : activation.entry.callerFp ≠ nullptr)
    (hpayload : activation.tracked = true → activation.payload ≠ nullptr)
    (hbelow : ∀ caller ∈ rest.head?, activation.Below caller.toDartCall) :
    NestedActivations (activation :: rest) where
  below := by
    refine pairwise_cons.mpr ⟨fun outer houter => ?_, h.below⟩
    cases rest with
    | nil => exact absurd houter not_mem_nil
    | cons caller callers =>
      have hcaller : activation.Below caller.toDartCall := hbelow caller rfl
      obtain rfl | hdeeper := mem_cons.mp houter
      · exact hcaller
      · exact hcaller.trans ((pairwise_cons.mp h.below).1 outer hdeeper)
  callerFp := forall_mem_cons.mpr ⟨hcallerFp, h.callerFp⟩
  payload := forall_mem_cons.mpr ⟨hpayload, h.payload⟩

omit [DecidableEq H] in
/-- An activation that turns out to run without a frame is nested all the same. -/
theorem NestedActivations.retrack (h : NestedActivations (activation :: rest))
    (htracked : activation.tracked = true) (tracked : Bool) :
    NestedActivations ({ activation with tracked := tracked } :: rest) where
  below := pairwise_cons.mpr (pairwise_cons.mp h.below)
  callerFp := forall_mem_cons.mpr (forall_mem_cons.mp h.callerFp)
  payload := by
    obtain ⟨hfirst, hrest⟩ := forall_mem_cons.mp h.payload
    exact forall_mem_cons.mpr ⟨fun _ => hfirst htracked, hrest⟩

structure Paired (thread : T) (s : ActivationWorld β H T) : Prop where
  nested : NestedActivations s.activations
  own : List.Forall₂ OwnFrame (s.activations.filter tracked) (s.world.stack thread)

omit [DecidableEq H] [DecidableEq T] in
theorem Paired.trackedInOrder (h : Paired thread s) : TrackedInOrder thread s := by
  refine ⟨h.own, ?_⟩
  rw [← h.own.length_eq, countP_eq_length_filter]

omit [DecidableEq H] [DecidableEq T] in
/-- The newest activation, when it is tracked, owns the frame on top. -/
theorem Paired.own_cons (h : Paired thread s) (hs : s.activations = activation :: rest)
    (htracked : activation.tracked = true) :
    ∃ frame frames, s.world.stack thread = frame :: frames ∧ OwnFrame activation frame ∧
      List.Forall₂ OwnFrame (rest.filter tracked) frames := by
  have hown := h.own
  rw [hs, filter_cons_of_pos htracked] at hown
  obtain ⟨frame, frames, hframe, hframes, hstack⟩ := forall₂_cons_left_iff.mp hown
  exact ⟨frame, frames, hstack, hframe, hframes⟩

omit [DecidableEq H] in
theorem OwnFrame.same {after : DispatchFrame β H} (h : OwnFrame activation frame)
    (hsame : SameEntry frame after) : OwnFrame activation after where
  payload := hsame.payload.trans h.payload
  returnLr := hsame.returnLr.trans h.returnLr
  entrySpreg := hsame.entrySpreg.trans h.entrySpreg
  entryCallerFp := hsame.entryCallerFp.trans h.entryCallerFp
  direct := hsame.direct.trans h.direct

omit [DecidableEq H] in
/-- What holds of every frame that one of the activations owns holds of all the frames. -/
theorem forall_frames_of_own {owners : List (Activation H)} {p : DispatchFrame β H → Prop}
    (hown : List.Forall₂ OwnFrame owners frames)
    (h : ∀ owner ∈ owners, ∀ frame, OwnFrame owner frame → p frame) :
    ∀ frame ∈ frames, p frame := by
  induction hown with
  | nil => nofun
  | cons hfirst hrest ih =>
    obtain ⟨hp, hps⟩ := forall_mem_cons.mp h
    exact forall_mem_cons.mpr ⟨hp _ hfirst, ih hps⟩

omit [DecidableEq H] [DecidableEq T] in
/-- A piece of the entry dispatch of an activation leaves its frame above those of the others, or
none, and the activation is tracked accordingly. -/
theorem paired_settle {outcome : DispatchWorld β H T × Option DispatchResult}
    (hnested : NestedActivations (activation :: rest)) (htracked : activation.tracked = true)
    (hown : List.Forall₂ OwnFrame (rest.filter tracked) frames)
    (h : (outcome.1.stack thread = frames ∧ outcome.2.isSome = true) ∨
      ∃ frame, outcome.1.stack thread = frame :: frames ∧ OwnFrame activation frame ∧
        ∀ result ∈ outcome.2, result.original.isNone = false) :
    Paired thread (settle thread (frames.length + 1) activation rest outcome) := by
  obtain ⟨after, result⟩ := outcome
  obtain ⟨hstack, hsome⟩ | ⟨frame, hstack, hframe, horiginal⟩ := h
  · obtain ⟨result, rfl⟩ := Option.isSome_iff_exists.mp hsome
    unfold settle
    dsimp only at hstack ⊢
    split
    · exact ⟨hnested.tail, by rw [hstack]; exact hown⟩
    · have hdeep : ¬ frames.length + 1 ≤ (after.stack thread).length := by
        rw [hstack]
        omega
      rw [decide_eq_false hdeep]
      refine ⟨hnested.retrack htracked false, ?_⟩
      rw [filter_cons_of_neg Bool.false_ne_true, hstack]
      exact hown
  · unfold settle
    dsimp only at hstack ⊢
    have hcons (owner : Activation H) (howner : OwnFrame owner frame)
        (htracked : owner.tracked = true) :
        List.Forall₂ OwnFrame ((owner :: rest).filter tracked) (after.stack thread) := by
      rw [filter_cons_of_pos htracked, hstack]
      exact .cons howner hown
    cases result with
    | none => exact ⟨hnested, hcons activation hframe htracked⟩
    | some result =>
      dsimp only
      rw [horiginal result rfl, if_neg Bool.false_ne_true]
      have hdeep : frames.length + 1 ≤ (after.stack thread).length := by
        rw [hstack, length_cons]
      rw [decide_eq_true hdeep]
      exact ⟨hnested.retrack htracked true,
        hcons _ ⟨hframe.1, hframe.2, hframe.3, hframe.4, hframe.5⟩ rfl⟩

/-! ## Returns -/

omit [DecidableEq H] in
theorem OwnFrame.matchesReturn (h : OwnFrame activation frame)
    (hpayload : activation.payload ≠ nullptr) :
    frame.matchesReturn activation.payload activation.entry = true := by
  rw [DispatchFrame.matchesReturn, h.payload, h.returnLr, h.entrySpreg, h.entryCallerFp,
    bne_iff_ne.mpr hpayload]
  simp only [beq_self_eq_true, Bool.and_self]

omit [DecidableEq H] in
theorem beginReturn_own (hstack : s.world.stack thread = frame :: frames)
    (hown : OwnFrame activation frame) (hpayload : activation.payload ≠ nullptr) :
    s.world.beginReturn thread activation.payload activation.entry =
      (s.world.setStack thread ({ frame with phase := .leaving } :: frames), .finish) := by
  unfold beginReturn
  rw [hstack]
  dsimp only
  have hdirect : ¬ frame.invokeOriginalNativeFrame ≠ 0 := not_not_intro hown.direct
  rw [hown.matchesReturn hpayload, if_neg Bool.true_eq_false.mp, if_neg hdirect]
  unfold beginFinish
  rw [hstack]

omit [DecidableEq H] in
/-- The veneers of a payload fire for every activation of its code; only SPREG tells them apart when
the stack has a frame of an older one. -/
theorem beginReturn_untracked (hnested : NestedActivations (activation :: rest))
    (hown : List.Forall₂ OwnFrame (rest.filter tracked) (s.world.stack thread)) :
    s.world.beginReturn thread activation.payload activation.entry = (s.world, .passthrough) := by
  have hforeign : ∀ frame ∈ s.world.stack thread, frame.entrySpreg ≠ activation.entry.spreg := by
    refine forall_frames_of_own hown fun owner howner frame hframe => ?_
    have hbelow : activation.Below owner.toDartCall :=
      (pairwise_cons.mp hnested.below).1 owner (mem_of_mem_filter howner)
    rw [hframe.entrySpreg]
    exact (BitVec.ne_of_lt hbelow.1).symm
  unfold beginReturn
  cases hstack : s.world.stack thread with
  | nil => rfl
  | cons frame frames =>
    have hspreg : frame.entrySpreg ≠ activation.entry.spreg :=
      hforeign frame (hstack ▸ mem_cons_self)
    have hmatches : frame.matchesReturn activation.payload activation.entry = false := by
      rw [DispatchFrame.matchesReturn, beq_false_of_ne hspreg]
      simp only [Bool.and_false, Bool.false_and]
    dsimp only
    rw [if_pos hmatches]

/-! ## Jumps -/

omit [DecidableEq H] [DecidableEq T] in
/-- A jump to a handler is above the frames of the activations it unwinds, and not above those of
the handler and its callers. -/
theorem jump_separates {count : ℕ} {targetSpreg targetFp : Address}
    (hnested : NestedActivations s.activations)
    (hjump : WellNested thread s (.jump count targetSpreg targetFp : ActivationEvent β H T)) :
    (∀ owner ∈ s.activations.take count, ∀ frame : DispatchFrame β H, OwnFrame owner frame →
      frame.unwoundBy targetSpreg targetFp = true) ∧
    ∀ owner ∈ s.activations.drop count, ∀ frame : DispatchFrame β H, OwnFrame owner frame →
      frame.unwoundBy targetSpreg targetFp = false := by
  obtain ⟨-, hcallee, hhandler⟩ := hjump
  constructor
  · intro owner howner frame hframe
    have hne : s.activations.take count ≠ [] := ne_nil_of_mem howner
    have hlast : ((s.activations.take count).getLast hne).entry.callerFp ≤ targetFp :=
      hcallee _ (List.getLast?_eq_some_getLast hne)
    have hordered : (s.activations.take count).Pairwise
        fun callee caller => callee.entry.callerFp ≤ caller.entry.callerFp :=
      (hnested.below.sublist (take_sublist ..)).imp fun hbelow => hbelow.2.1
    have hrefl : Std.Refl fun callee caller : Activation H =>
        callee.entry.callerFp ≤ caller.entry.callerFp := ⟨fun _ => BitVec.le_refl _⟩
    have hle : owner.entry.callerFp ≤ targetFp :=
      BitVec.le_trans (hordered.rel_getLast howner) hlast
    have hcallerFp : owner.entry.callerFp ≠ 0 :=
      hnested.callerFp owner (mem_of_mem_take howner)
    have htarget : targetFp ≠ 0 := by
      rintro rfl
      exact hcallerFp (BitVec.le_zero_iff.mp hle)
    rw [DispatchFrame.unwoundBy, hframe.entryCallerFp, bne_iff_ne.mpr hcallerFp,
      bne_iff_ne.mpr htarget, decide_eq_true hle]
    simp only [Bool.and_self, Bool.true_or]
  · intro owner howner frame hframe
    obtain ⟨hfp, hspreg⟩ : targetFp < owner.entry.callerFp ∧ targetSpreg ≤ owner.entry.spreg := by
      cases hdrop : s.activations.drop count with
      | nil => exact absurd (hdrop ▸ howner) not_mem_nil
      | cons handler callers =>
        obtain ⟨-, hhandlerFp, hhandlerSpreg⟩ := hhandler handler (by rw [hdrop]; rfl)
        have hbelow := (hnested.drop count).below
        rw [hdrop] at hbelow howner
        obtain rfl | hdeeper := mem_cons.mp howner
        · exact ⟨hhandlerFp, hhandlerSpreg⟩
        · have hcaller := (pairwise_cons.mp hbelow).1 owner hdeeper
          have hcallerSpreg := hcaller.1
          have hcallerFp := hcaller.2.1
          constructor
          · bv_omega
          · bv_omega
    have hfp' : ¬ targetFp ≥ owner.entry.callerFp := BitVec.not_le.mpr hfp
    have hspreg' : ¬ targetSpreg > owner.entry.spreg := BitVec.not_lt.mpr hspreg
    rw [DispatchFrame.unwoundBy, hframe.entryCallerFp, hframe.entrySpreg, decide_eq_false hfp',
      decide_eq_false hspreg']
    simp only [Bool.and_false, Bool.or_self]

omit [DecidableEq H] in
theorem forall₂_filter_append {above below : List (Activation H)}
    (hown : List.Forall₂ OwnFrame ((above ++ below).filter tracked) frames) :
    ∃ abandoned kept, frames = abandoned ++ kept ∧
      List.Forall₂ OwnFrame (above.filter tracked) abandoned ∧
      List.Forall₂ OwnFrame (below.filter tracked) kept := by
  rw [filter_append] at hown
  have htake := forall₂_take (above.filter tracked).length hown
  have hdrop := forall₂_drop (above.filter tracked).length hown
  rw [take_left] at htake
  rw [drop_left] at hdrop
  exact ⟨_, _, (take_append_drop ..).symm, htake, hdrop⟩

/-- A jump abandons exactly the frames of the activations it unwinds. -/
theorem jump_abandons {count : ℕ} {targetSpreg targetFp : Address} (h : Paired thread s)
    (hjump : WellNested thread s (.jump count targetSpreg targetFp : ActivationEvent β H T)) :
    ∃ abandoned, s.world.stack thread = abandoned ++
        (s.world.dispatchExceptionUnwind thread targetSpreg targetFp).stack thread ∧
      List.Forall₂ OwnFrame ((s.activations.take count).filter tracked) abandoned ∧
      List.Forall₂ OwnFrame ((s.activations.drop count).filter tracked)
        ((s.world.dispatchExceptionUnwind thread targetSpreg targetFp).stack thread) := by
  obtain ⟨habove, hbelow⟩ := jump_separates h.nested hjump
  have hown := h.own
  rw [← take_append_drop count s.activations] at hown
  obtain ⟨abandoned, kept, hframes, hgone, hkept⟩ := forall₂_filter_append hown
  have hunwound : ∀ frame ∈ abandoned, frame.unwoundBy targetSpreg targetFp = true :=
    forall_frames_of_own hgone fun owner howner => habove owner (mem_of_mem_filter howner)
  have hstays : ∀ frame ∈ kept, frame.unwoundBy targetSpreg targetFp = false :=
    forall_frames_of_own hkept fun owner howner => hbelow owner (mem_of_mem_filter howner)
  have hafter : (s.world.dispatchExceptionUnwind thread targetSpreg targetFp).stack thread =
      kept := by
    by_cases htarget : targetSpreg = 0 ∧ targetFp = 0
    · obtain ⟨rfl, rfl⟩ := htarget
      rw [dispatchExceptionUnwind, if_pos ⟨rfl, rfl⟩, hframes]
      cases abandoned with
      | nil => rfl
      | cons frame frames =>
        have hnone : frame.unwoundBy 0 0 = false := by
          simp only [DispatchFrame.unwoundBy, bne_self_eq_false, Bool.and_false, Bool.false_and,
            Bool.or_self]
        exact absurd (hunwound frame mem_cons_self) (Bool.eq_false_iff.mp hnone)
    · rw [dispatchExceptionUnwind_stack targetSpreg targetFp htarget, hframes,
        dropWhile_append_of_pos hunwound]
      cases kept with
      | nil => rfl
      | cons frame frames =>
        simp only [dropWhile_cons, hstays frame mem_cons_self, Bool.false_eq_true,
          if_false]
  rw [hafter]
  exact ⟨abandoned, hframes, hgone, hkept⟩

/-! ## One event -/

omit [DecidableEq H] [DecidableEq T] in
/-- A piece that is due only at the newest activation's own frame. -/
theorem onOwnFrame_of {p : ActivationWorld β H T → Prop}
    {piece : Activation H → List (Activation H) → DispatchFrame β H → ActivationWorld β H T}
    (hs : p s)
    (hpiece : ∀ activation rest frame frames, s.activations = activation :: rest →
      s.world.stack thread = frame :: frames → activation.tracked = true →
      p (piece activation rest frame)) : p (onOwnFrame thread s piece) := by
  unfold onOwnFrame
  split
  · next activation rest frame frames hactivations hstack =>
    split
    · next htracked => exact hpiece activation rest frame frames hactivations hstack htracked
    · exact hs
  · exact hs

omit [DecidableEq H] [DecidableEq T] in
/-- Such a piece works on the frame of its activation, above those of the others. -/
theorem onOwnFrame_paired {p : ActivationWorld β H T → Prop}
    {piece : Activation H → List (Activation H) → DispatchFrame β H → ActivationWorld β H T}
    (h : Paired thread s) (hs : p s)
    (hpiece : ∀ activation rest frame frames, s.activations = activation :: rest →
      s.world.stack thread = frame :: frames → activation.tracked = true →
      OwnFrame activation frame → List.Forall₂ OwnFrame (rest.filter tracked) frames →
      p (piece activation rest frame)) : p (onOwnFrame thread s piece) := by
  refine onOwnFrame_of hs fun activation rest frame frames hactivations hstack htracked => ?_
  obtain ⟨top, below, htop, hown, hbelow⟩ := h.own_cons hactivations htracked
  obtain ⟨rfl, rfl⟩ := cons_eq_cons.mp (hstack.symm.trans htop)
  exact hpiece activation rest frame frames hactivations hstack htracked hown hbelow

omit [DecidableEq H] in
/-- A piece of the entry dispatch keeps the activations and the frames paired. -/
theorem Paired.settle {outcome : DispatchWorld β H T × Option DispatchResult}
    (h : Paired thread s) (hs : s.activations = activation :: rest)
    (hstack : s.world.stack thread = frame :: frames) (htracked : activation.tracked = true)
    (hown : OwnFrame activation frame)
    (hbelow : List.Forall₂ OwnFrame (rest.filter tracked) frames)
    (houtcome : KeepsOrPops s.world thread frame frames outcome) :
    Paired thread
      (DartPlant.settle thread (s.world.stack thread).length activation rest outcome) := by
  rw [hstack, length_cons]
  refine paired_settle (hs ▸ h.nested) htracked hbelow ?_
  obtain ⟨hafter, hsome⟩ | ⟨after, hafter, hsame, horiginal⟩ := houtcome
  · exact .inl ⟨by rw [hafter, update_self], hsome⟩
  · exact .inr ⟨after, by rw [hafter, update_self], hown.same hsame, horiginal⟩

variable (h : Paired thread s)
include h

theorem Paired.call {called : DartCall H} (storage : Bool)
    (current : β → Bool) (hcall : WellNested thread s (.call called storage current)) :
    Paired thread (activationStep thread s (.call called storage current)) := by
  obtain ⟨hcallerFp, hhook, hbelow⟩ := hcall
  unfold activationStep
  dsimp only
  cases hcalled : called.hook with
  | none =>
    refine ⟨h.nested.push hcallerFp nofun hbelow, ?_⟩
    rw [filter_cons_of_neg Bool.false_ne_true]
    exact h.own
  | some hook =>
    obtain ⟨hpayload, hnull⟩ := hhook hook hcalled
    have hnested : NestedActivations (⟨called, true⟩ :: s.activations) :=
      h.nested.push hcallerFp (fun _ => hnull) hbelow
    refine paired_settle hnested rfl h.own ?_
    obtain ⟨hstack, hsome⟩ | ⟨frame, hstack, hown, horiginal⟩ :=
      beginDispatch_stack s.world thread ⟨called, true⟩ hpayload storage current
    · exact .inl ⟨by rw [hstack], hsome⟩
    · exact .inr ⟨frame, by rw [hstack, update_self], hown, horiginal⟩

/-- The RET of a tracked activation starts the leave callbacks of its frame. -/
theorem activationStep_ret_tracked (hs : s.activations = activation :: rest)
    (htracked : activation.tracked = true) (hstack : s.world.stack thread = frame :: frames)
    (hown : OwnFrame activation frame) :
    activationStep thread s (.ret true : ActivationEvent β H T) =
      ⟨s.world.setStack thread ({ frame with phase := .leaving } :: frames),
        activation :: rest⟩ := by
  have hpayload : activation.payload ≠ nullptr :=
    h.nested.payload activation (hs ▸ mem_cons_self) htracked
  simp only [activationStep, hs, beginReturn_own hstack hown hpayload, if_true]

/-- The RET of an untracked activation changes nothing, intercepted or not. -/
theorem activationStep_ret_untracked
    (hs : s.activations = activation :: rest) (htracked : activation.tracked = false)
    (intercepted : Bool) : activationStep thread s (.ret intercepted : ActivationEvent β H T) =
      { s with activations := rest } := by
  have hown := h.own
  have hnested := h.nested
  rw [hs] at hnested
  rw [hs, filter_cons_of_neg (by rw [htracked]; exact Bool.false_ne_true)] at hown
  cases intercepted with
  | false => simp only [activationStep, hs, Bool.false_eq_true, if_false]
  | true => simp only [activationStep, hs, beginReturn_untracked hnested hown, if_true]

/-- A RET finishes the frame of its own activation, if it has one. -/
theorem Paired.ret {intercepted : Bool}
    (hret : WellNested thread s (.ret intercepted : ActivationEvent β H T)) :
    Paired thread (activationStep thread s (.ret intercepted : ActivationEvent β H T)) ∧
      ResolvesOwn thread s (.ret intercepted : ActivationEvent β H T) := by
  cases hs : s.activations with
  | nil =>
    constructor
    · simp only [activationStep, hs]
      exact h
    · intro activation rest hcons
      exact absurd (hs.symm.trans hcons) (cons_ne_nil activation rest).symm
  | cons activation rest =>
    have hnested := h.nested
    rw [hs] at hnested
    cases htracked : activation.tracked with
    | true =>
      obtain ⟨rfl, -⟩ := hret activation (by rw [hs]; rfl) htracked
      obtain ⟨frame, frames, hstack, hown, hbelow⟩ := h.own_cons hs htracked
      have hstep := activationStep_ret_tracked h hs htracked hstack hown
      constructor
      · rw [hstep]
        refine ⟨hnested, ?_⟩
        rw [filter_cons_of_pos htracked, setStack_self]
        exact .cons ⟨hown.1, hown.2, hown.3, hown.4, hown.5⟩ hbelow
      · intro first others hcons
        obtain ⟨rfl, rfl⟩ := cons_eq_cons.mp (hs.symm.trans hcons)
        refine ⟨fun _ => ⟨frame, frames, hstack, hown, ?_, ?_, ?_⟩, fun hfalse => ?_⟩
        · intro other hother hforeign
          have hspreg := ((pairwise_cons.mp hnested.below).1 other hother).1
          rw [← hown.entrySpreg, ← hforeign.entrySpreg] at hspreg
          exact BitVec.lt_irrefl _ hspreg
        · rw [hstep, setStack_self]
        · rw [hstep]
        · exact absurd (htracked.symm.trans hfalse) Bool.true_eq_false.mp
    | false =>
      have hstep := activationStep_ret_untracked h hs htracked intercepted
      constructor
      · rw [hstep]
        refine ⟨hnested.tail, ?_⟩
        have hown := h.own
        rw [hs, filter_cons_of_neg (by rw [htracked]; exact Bool.false_ne_true)] at hown
        exact hown
      · intro first others hcons
        obtain ⟨rfl, rfl⟩ := cons_eq_cons.mp (hs.symm.trans hcons)
        refine ⟨fun htrue => ?_, fun _ => hstep⟩
        exact absurd (htracked.symm.trans htrue) Bool.false_ne_true

/-- One event of a well-nested history. -/
theorem Paired.step {event : ActivationEvent β H T} (hnested : WellNested thread s event) :
    Paired thread (activationStep thread s event) ∧ ResolvesOwn thread s event := by
  cases event with
  | call called storage current => exact ⟨h.call storage current hnested, trivial⟩
  | setup reading =>
    refine ⟨onOwnFrame_paired h h fun activation rest frame frames hs hstack htracked hown hbelow =>
      ?_, trivial⟩
    split
    · exact h.settle hs hstack htracked hown hbelow (setupDispatch_stack hstack reading)
    · exact h
  | enterCallback =>
    refine ⟨onOwnFrame_paired h h fun activation rest frame frames hs hstack htracked hown hbelow =>
      ?_, trivial⟩
    have hsettled := h.settle hs hstack htracked hown hbelow (enterCallback_stack hstack)
    unfold DartPlant.settle at hsettled
    rw [← hs] at hsettled
    exact hsettled
  | finishEnter skipOriginal identityAmbiguous bridgeLeft =>
    refine ⟨onOwnFrame_paired h h fun activation rest frame frames hs hstack htracked hown hbelow =>
      ?_, trivial⟩
    split
    · split
      · exact h.settle hs hstack htracked hown hbelow (finishEnter_stack hstack ..)
      · exact h
    · exact h
  | ret intercepted => exact h.ret hnested
  | release =>
    constructor
    · refine onOwnFrame_paired h h fun activation rest frame frames hs hstack _ _ hbelow => ?_
      split
      · refine ⟨(hs ▸ h.nested : NestedActivations (activation :: rest)).tail, ?_⟩
        rw [releaseFrame_stack hstack, update_self]
        exact hbelow
      · exact h
    · intro activation rest frame frames hs hstack htracked hphase
      obtain ⟨top, below, htop, hown, -⟩ := h.own_cons hs htracked
      obtain ⟨rfl, rfl⟩ := cons_eq_cons.mp (hstack.symm.trans htop)
      have hstep : activationStep thread s (.release : ActivationEvent β H T) =
          ⟨s.world.releaseFrame thread, rest⟩ := by
        simp only [activationStep, onOwnFrame, hs, hstack, htracked, hphase, if_true]
      refine ⟨hown, ?_, ?_⟩
      · rw [hstep, releaseFrame_stack hstack, update_self]
      · rw [hstep]
  | jump count targetSpreg targetFp =>
    obtain ⟨abandoned, hstack, hgone, hkept⟩ := jump_abandons h hnested
    exact ⟨⟨h.nested.drop count, hkept⟩, abandoned, hstack, hgone⟩
  | elsewhere action =>
    refine ⟨⟨h.nested, ?_⟩, trivial⟩
    show List.Forall₂ OwnFrame _ ((dispatchStep s.world action).stack thread)
    rw [dispatchStep_elsewhere hnested]
    exact h.own

end Invariant

/-! ## Every well-nested history -/

/-- In every well-nested history of a thread the dispatch stack holds the frames of the live tracked
activations and no others, an intercepted RET finishes its own frame or nothing, and a jump abandons
the frames of what it unwinds. -/
theorem returns_and_unwinds_paired {thread : T} {s : ActivationWorld β H T}
    {events : List (ActivationEvent β H T)} (hidle : s.activations = [])
    (hempty : s.world.stack thread = [])
    (hnested : AlongSteps (activationStep thread) (WellNested thread) s events) :
    Along (activationStep thread) (TrackedInOrder thread) s events ∧
      AlongSteps (activationStep thread) (ResolvesOwn thread) s events := by
  have hstart : Paired thread s := by
    refine ⟨hidle ▸ ⟨.nil, nofun, nofun⟩, ?_⟩
    rw [hidle, hempty]
    exact .nil
  have hpaired : Along (activationStep thread) (Paired thread) s events :=
    along_of_invariant (fun _ _ h hevent => (h.step hevent).1) hnested hstart
  constructor
  · intro before hbefore
    exact (hpaired before hbefore).trackedInOrder
  · intro before event hbefore
    have hprefix : before <+: events := (prefix_append before [event]).trans hbefore
    exact ((hpaired before hprefix).step (hnested before event hbefore)).2

end Step

/-- A hooked function and a sibling that shares its payload, on one thread. -/
def siblingWorld : ActivationWorld Unit Unit Unit where
  world := {
    hooks := fun _ => {
      registry := (twoThreadWorld.hooks ()).registry
      realDart := true
      payload := 0x7000 }
    listenerInFlight := fun _ _ => 0
    stack := fun _ => [] }
  activations := []

def hookedCall (spreg callerFp : Address) : ActivationEvent Unit Unit Unit :=
  .call ⟨some (), 0x7000, ⟨0x30, spreg, callerFp⟩, true⟩ true fun _ => true

def siblingCall (spreg callerFp : Address) : ActivationEvent Unit Unit Unit :=
  .call ⟨none, 0x7000, ⟨0x34, spreg, callerFp⟩, true⟩ true fun _ => true

/-- The hooked function catches what its recursive call throws through the sibling, calls the
sibling once more and returns. -/
def catchingHistory : List (ActivationEvent Unit Unit Unit) :=
  let setup := [.setup ⟨fun _ => true, fun _ _ => true, fun _ => false, false, true, true, true⟩,
    .enterCallback, .finishEnter false false true]
  hookedCall 0x9000 0xa000 :: setup ++ [siblingCall 0x8000 0x8ff0] ++
    hookedCall 0x7000 0x7ff0 :: setup ++
    [.jump 2 0x8f00 0x8ff0, siblingCall 0x8000 0x8ff0, .ret true, .ret true, .release]

theorem returns_and_unwinds_paired_catching :
    (((catchingHistory.take 9).foldl (activationStep ()) siblingWorld).world.stack ()).length = 2 ∧
    ((catchingHistory.foldl (activationStep ()) siblingWorld).world.stack ()).length = 0 ∧
      Along (activationStep ()) (TrackedInOrder ()) siblingWorld catchingHistory ∧
      AlongSteps (activationStep ()) (ResolvesOwn ()) siblingWorld catchingHistory := by
  refine ⟨rfl, rfl, returns_and_unwinds_paired rfl rfl ?_⟩
  have hhook : ∀ hook ∈ some (), (siblingWorld.world.hooks hook).payload = 0x7000 ∧
      (0x7000 : Address) ≠ nullptr := fun _ _ => ⟨rfl, by decide⟩
  unfold catchingHistory
  simp only [cons_append, nil_append, alongSteps_cons, alongSteps_nil]
  refine ⟨⟨by decide, hhook, ?_⟩, trivial, trivial, trivial, ⟨by decide, ?_, ?_⟩,
    ⟨by decide, ?_, ?_⟩, trivial, trivial, trivial, ⟨by decide, ?_, ?_⟩, ⟨by decide, ?_, ?_⟩, ?_,
    ?_, trivial, trivial⟩
  · rintro _ ⟨⟩
  · rintro _ ⟨⟩
  · rintro _ ⟨⟩
    exact ⟨by decide, by decide, fun _ => by decide⟩
  · rintro _ ⟨⟩
    exact ⟨rfl, by decide⟩
  · rintro _ ⟨⟩
    exact ⟨by decide, by decide, fun _ => by decide⟩
  · rintro _ ⟨⟩
    decide
  · rintro _ ⟨⟩
    decide
  · rintro _ ⟨⟩
  · rintro _ ⟨⟩
    exact ⟨by decide, by decide, fun _ => by decide⟩
  · rintro _ ⟨⟩ h
    cases h
  · rintro _ ⟨⟩
    intro _
    refine ⟨rfl, ?_⟩
    rintro _ ⟨⟩
    rfl
end DartPlant
