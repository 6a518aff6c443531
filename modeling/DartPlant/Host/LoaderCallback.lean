import DartPlant.Lib.Census
import DartPlant.Lib.Holdings
import DartPlant.Lib.PackedWord
import DartPlant.Lib.Runs

/-! # Loader callbacks and their drain

The loader of the host calls `native_init` once it has mapped the module, and the `OnModuleLoaded`
it returns after every later `dlopen`, from any thread.  One 64-bit word admits them: its low half is
the state of admission, its high half the number of callbacks inside.  Entering and closing are
compare-and-swap loops, and each load and each attempt is a step of its own here; an attempt may fail
spuriously.  Leaving is a plain subtraction, and the drain finishes with one strong
compare-and-swap.

A thread may call anything at any time: that the host cannot know `OnModuleLoaded` before some
`native_init` has returned it is not used.
-/

namespace DartPlant
open Census Holdings PackedWord Runs

inductive LoaderCallbackState where
  | active
  | draining
  | closed
  deriving DecidableEq, Repr

open LoaderCallbackState

/-- The enumerator's value in the low half of the control word. -/
def LoaderCallbackState.toWord : LoaderCallbackState → BitVec 32
  | active => 0
  | draining => 1
  | closed => 2

def kLoaderCallbackEntrant : BitVec 64 := 1#64 <<< 32

def kLoaderCallbackStateMask : BitVec 64 := 0xffffffff#64

/-- The two bodies behind `TryEnterLoaderCallback`. -/
inductive LoaderCallback where
  | nativeInit
  | onModuleLoaded
  deriving DecidableEq, Repr

/-- Where a thread is.  `current` is what its loop read last. -/
inductive LoaderPhase where
  | idle
  | entering (callback : LoaderCallback) (current : BitVec 64)
  | inside (callback : LoaderCallback)
  | leaving
  | closing (current : BitVec 64)
  deriving DecidableEq, Repr

/-- Between a successful `TryEnterLoaderCallback` and its `ExitLoaderCallback`. -/
def LoaderPhase.Entered : LoaderPhase → Prop
  | inside _ => True
  | leaving => True
  | _ => False

/-- `LoaderCallbackInFlight` of a control word. -/
def loaderCallbackInFlight (control : BitVec 64) : BitVec 32 := (control >>> 32).setWidth 32

/-- The test of the loop in `TryEnterLoaderCallback`. -/
def admitsLoaderCallback (current : BitVec 64) : Bool :=
  !(current.setWidth 32 != active.toWord ||
    current >>> 32 == (0xffffffff#32).setWidth 64)

/-- What `CloseLoaderCallbackAdmission` stores over the word it read. -/
def closedAdmission (current : BitVec 64) : BitVec 64 :=
  (current &&& ~~~kLoaderCallbackStateMask) ||| draining.toWord.setWidth 64

/-- `FinishLoaderCallbackDrain`. -/
def finishLoaderCallbackDrain (control : BitVec 64) : BitVec 64 × Bool :=
  if control = draining.toWord.setWidth 64 then
    (closed.toWord.setWidth 64, true)
  else (control, control == closed.toWord.setWidth 64)

/-- The module and the threads `τ` that call into it.  `initialized` is `g_initialized`, `scheduled`
counts the refreshes the callbacks asked for, and `drainReported` remembers that
`finish_callback_drain` has returned true. -/
structure LoaderWorld (τ : Type) where
  control : BitVec 64 := active.toWord.setWidth 64
  initialized : Bool := false
  scheduled : ℕ := 0
  drainReported : Bool := false
  thread : τ → LoaderPhase := fun _ => .idle

/-- A step of one thread. -/
inductive LoaderStep where
  | callNativeInit (entriesUsable : Bool)
  | callOnModuleLoaded
  | tryEnter (spurious : Bool)
  | runBody
  | exit
  | callCloseAdmission
  | tryClose (spurious : Bool)
  | finishDrain
  deriving DecidableEq, Repr

section Step
variable {τ : Type} [DecidableEq τ]

namespace LoaderWorld

def setThread (w : LoaderWorld τ) (t : τ) (phase : LoaderPhase) : LoaderWorld τ :=
  { w with thread := Function.update w.thread t phase }

/-- One attempt of `TryEnterLoaderCallback`. -/
def tryEnter (w : LoaderWorld τ) (t : τ) (callback : LoaderCallback) (current : BitVec 64)
    (spurious : Bool) : LoaderWorld τ :=
  if admitsLoaderCallback current = false then w.setThread t .idle
  else if w.control = current ∧ spurious = false then
    { w.setThread t (.inside callback) with control := current + kLoaderCallbackEntrant }
  else w.setThread t (.entering callback w.control)

/-- The body of a callback.  Only the `native_init` that wins `g_initialized` goes on to install the
host and to schedule a refresh. -/
def runBody (w : LoaderWorld τ) (t : τ) : LoaderCallback → LoaderWorld τ
  | .nativeInit =>
    if w.initialized then w.setThread t .leaving
    else { w.setThread t .leaving with initialized := true, scheduled := w.scheduled + 1 }
  | .onModuleLoaded => { w.setThread t .leaving with scheduled := w.scheduled + 1 }

/-- One attempt of `CloseLoaderCallbackAdmission`. -/
def tryClose (w : LoaderWorld τ) (t : τ) (current : BitVec 64) (spurious : Bool) : LoaderWorld τ :=
  if current.setWidth 32 ≠ active.toWord then w.setThread t .idle
  else if w.control = current ∧ spurious = false then
    { w.setThread t .idle with control := closedAdmission current }
  else w.setThread t (.closing w.control)

end LoaderWorld

/-- One step of a thread; `none` when it is somewhere else. -/
def loaderStep (w : LoaderWorld τ) (action : τ × LoaderStep) : Option (LoaderWorld τ) :=
  let t := action.1
  match action.2, w.thread t with
  | .callNativeInit entriesUsable, .idle =>
    if entriesUsable then some (w.setThread t (.entering .nativeInit w.control)) else some w
  | .callOnModuleLoaded, .idle => some (w.setThread t (.entering .onModuleLoaded w.control))
  | .tryEnter spurious, .entering callback current => some (w.tryEnter t callback current spurious)
  | .runBody, .inside callback => some (w.runBody t callback)
  | .exit, .leaving =>
    some { w.setThread t .idle with control := w.control - kLoaderCallbackEntrant }
  | .callCloseAdmission, .idle => some (w.setThread t (.closing w.control))
  | .tryClose spurious, .closing current => some (w.tryClose t current spurious)
  | .finishDrain, .idle =>
    some { w with
      control := (finishLoaderCallbackDrain w.control).1
      drainReported := w.drainReported || (finishLoaderCallbackDrain w.control).2 }
  | _, _ => none

end Step

/-! ## The word -/

section Word
variable {n : BitVec 32} {s : LoaderCallbackState}

theorem loaderWord_inj {s s' : LoaderCallbackState} (h : s.toWord = s'.toWord) : s = s' := by
  cases s <;> cases s' <;> first | rfl | exact absurd h (by decide)

@[simp] theorem inFlight_pack (lo : BitVec 32) : loaderCallbackInFlight (pack n lo) = n :=
  high_pack n lo

theorem admits_pack (h : admitsLoaderCallback (pack n s.toWord) = true) :
    s = .active ∧ n ≠ BitVec.allOnes 32 := by
  simp only [admitsLoaderCallback, Bool.not_eq_true', Bool.or_eq_false_iff, bne_eq_false_iff_eq,
    beq_eq_false_iff_ne, pack_shift] at h
  obtain ⟨hlow, hhigh⟩ := h
  refine ⟨loaderWord_inj ?_, fun hmax => hhigh ?_⟩
  · have hpack := low_pack n s.toWord
    rw [low] at hpack
    exact hpack.symm.trans hlow
  · rw [hmax]
    rfl

theorem closedAdmission_pack :
    closedAdmission (pack n s.toWord) = pack n draining.toWord :=
  replace_low n s.toWord draining.toWord

/-- The drain finishes exactly when nobody is inside and admission is closed. -/
theorem finishDrain_pack :
    finishLoaderCallbackDrain (pack n s.toWord) =
      if s = .draining ∧ n = 0#32 then (pack 0#32 closed.toWord, true)
      else (pack n s.toWord, decide (s = .closed ∧ n = 0#32)) := by
  have hword : ∀ s' : LoaderCallbackState,
      pack n s.toWord = s'.toWord.setWidth 64 ↔ s = s' ∧ n = 0#32 := by
    intro s'
    rw [setWidth_eq_pack, pack_inj, and_comm]
    exact and_congr_left fun _ => ⟨loaderWord_inj, congrArg toWord⟩
  unfold finishLoaderCallbackDrain
  split
  next hdraining =>
    rw [if_pos ((hword _).mp hdraining), setWidth_eq_pack]
  next hdraining =>
    rw [if_neg fun h => hdraining ((hword _).mpr h)]
    refine Prod.ext rfl ?_
    rw [Bool.eq_iff_iff, beq_iff_eq, hword, decide_eq_true_iff]

end Word

/-! ## One step -/

/-- The states in the order admission goes through them. -/
def LoaderCallbackState.Next (s s' : LoaderCallbackState) : Prop :=
  s' = s ∨ (s = .active ∧ s' = .draining) ∨ (s = .draining ∧ s' = .closed)

section Invariant
variable {τ : Type}

/-- The word reads as this state and count, and the count is the number of threads inside. -/
structure ControlAt (w : LoaderWorld τ) (s : LoaderCallbackState) (n : BitVec 32) : Prop where
  word : w.control = pack n s.toWord
  entrants : census LoaderPhase.Entered w.thread = (n.toNat : ℕ∞)
  closed : s = .closed → n = 0#32
  reported : w.drainReported = true → s = .closed

theorem ControlAt.initial : ControlAt ({} : LoaderWorld τ) .active 0#32 where
  word := setWidth_eq_pack _
  entrants := census_eq_zero.mpr fun _ h => h
  closed := nofun
  reported := nofun

/-- What a step from a state with this word leads to. -/
structure StepsTo (w w' : LoaderWorld τ) (s : LoaderCallbackState) : Prop where
  control : ∃ s' n', ControlAt w' s' n' ∧ s.Next s'
  enters : ∀ t, ¬ (w.thread t).Entered → (w'.thread t).Entered → s = .active
  /-- Only a thread inside schedules anything. -/
  schedules : w'.scheduled ≠ w.scheduled → ∃ t, (w.thread t).Entered
  reported : w.drainReported = true → w'.drainReported = true

variable [DecidableEq τ] {w w' : LoaderWorld τ} {s : LoaderCallbackState} {n : BitVec 32} {t : τ}
  {phase : LoaderPhase}

theorem entered_update (hphase : phase.Entered ↔ (w.thread t).Entered) (other : τ)
    (hout : ¬ (w.thread other).Entered) (hin : ((w.setThread t phase).thread other).Entered) :
    False := by
  have hin : (Function.update w.thread t phase other).Entered := hin
  by_cases hother : other = t
  · subst hother
    rw [Function.update_self] at hin
    exact hout (hphase.mp hin)
  · rw [Function.update_of_ne hother] at hin
    exact hout hin

/-- A step that moves one thread without letting it in or out, and leaves the word alone. -/
theorem ControlAt.move (h : ControlAt w s n) (phase : LoaderPhase)
    (hphase : phase.Entered ↔ (w.thread t).Entered)
    (hthread : w'.thread = (w.setThread t phase).thread) (hcontrol : w'.control = w.control)
    (hreported : w'.drainReported = w.drainReported)
    (hscheduled : w'.scheduled ≠ w.scheduled → (w.thread t).Entered) : StepsTo w w' s where
  control := by
    refine ⟨s, n, ⟨hcontrol.trans h.word, ?_, h.closed, fun hr => h.reported (hreported ▸ hr)⟩,
      Or.inl rfl⟩
    rw [hthread]
    exact (census_update_of_iff hphase).trans h.entrants
  enters := fun other hout hin => (entered_update hphase other hout (hthread ▸ hin)).elim
  schedules := fun hne => ⟨t, hscheduled hne⟩
  reported := fun hr => hreported.trans hr

theorem ControlAt.tryEnter (h : ControlAt w s n) {callback : LoaderCallback}
    {current : BitVec 64} (spurious : Bool) (hthread : w.thread t = .entering callback current) :
    StepsTo w (w.tryEnter t callback current spurious) s := by
  have hout : ¬ (w.thread t).Entered := by
    rw [hthread]
    exact id
  unfold LoaderWorld.tryEnter
  split
  · exact h.move .idle (iff_of_false id hout) rfl rfl rfl (absurd rfl)
  next hadmits =>
    split
    next hswap =>
      have hadmits := Bool.eq_true_of_not_eq_false hadmits
      have hcurrent : current = pack n s.toWord := hswap.1.symm.trans h.word
      rw [hcurrent] at hadmits ⊢
      obtain ⟨rfl, hroom⟩ := admits_pack hadmits
      refine ⟨⟨.active, n + 1#32, ⟨?_, ?_, nofun, ?_⟩, Or.inl rfl⟩, fun _ _ _ => rfl,
        absurd rfl, id⟩
      · exact pack_add_highOne n _
      · have hsucc := Holdings.Counts.succ (rfl : Holdings.Counts n n.toNat) hroom
        show census LoaderPhase.Entered (Function.update w.thread t (.inside callback)) = _
        rw [census_enter (b := LoaderPhase.inside callback) hout trivial h.entrants]
        exact congrArg Nat.cast hsucc.symm
      · exact fun hr => nomatch h.reported hr
    next =>
      exact h.move (.entering callback w.control) (iff_of_false id hout) rfl rfl rfl
        (absurd rfl)

theorem ControlAt.exit (h : ControlAt w s n) (hthread : w.thread t = .leaving) :
    StepsTo w { w.setThread t .idle with control := w.control - kLoaderCallbackEntrant } s := by
  have hin : (w.thread t).Entered := by
    rw [hthread]
    trivial
  have hne : n ≠ 0#32 := by
    rintro rfl
    exact census_ne_zero hin h.entrants
  refine ⟨⟨s, n - 1#32, ⟨?_, ?_, fun hs => absurd (h.closed hs) hne, h.reported⟩, Or.inl rfl⟩, ?_,
    absurd rfl, id⟩
  · show w.control - kLoaderCallbackEntrant = _
    rw [h.word]
    exact pack_sub_highOne n _
  · have hpred := Holdings.Counts.pred (rfl : Holdings.Counts n n.toNat) hne
    show census LoaderPhase.Entered (Function.update w.thread t .idle) = _
    rw [census_leave (b := LoaderPhase.idle) hin id h.entrants]
    exact congrArg Nat.cast hpred.symm
  · intro other hout hother
    by_cases heq : other = t
    · exact absurd (heq ▸ hin) hout
    · exact absurd (show (Function.update w.thread t .idle other).Entered from hother)
        (by rwa [Function.update_of_ne heq])

theorem ControlAt.tryClose (h : ControlAt w s n) {current : BitVec 64} (spurious : Bool)
    (hthread : w.thread t = .closing current) : StepsTo w (w.tryClose t current spurious) s := by
  have hout : ¬ (w.thread t).Entered := by
    rw [hthread]
    exact id
  unfold LoaderWorld.tryClose
  split
  · exact h.move .idle (iff_of_false id hout) rfl rfl rfl (absurd rfl)
  next hactive =>
    split
    next hswap =>
      have hcurrent : current = pack n s.toWord := hswap.1.symm.trans h.word
      rw [hcurrent] at hactive ⊢
      obtain rfl : s = .active := loaderWord_inj ((low_pack n s.toWord).symm.trans (not_not.mp hactive))
      refine ⟨⟨.draining, n, ⟨closedAdmission_pack, ?_, nofun, ?_⟩, Or.inr (Or.inl ⟨rfl, rfl⟩)⟩,
        fun _ _ _ => rfl, absurd rfl, id⟩
      · exact (census_update_of_iff (iff_of_false id hout)).trans h.entrants
      · exact fun hr => nomatch h.reported hr
    next =>
      exact h.move (.closing w.control) (iff_of_false id hout) rfl rfl rfl (absurd rfl)

omit [DecidableEq τ] in
theorem ControlAt.finishDrain (h : ControlAt w s n) :
    StepsTo w { w with
      control := (finishLoaderCallbackDrain w.control).1
      drainReported := w.drainReported || (finishLoaderCallbackDrain w.control).2 } s := by
  refine ⟨?_, fun _ hout hin => absurd hin hout, absurd rfl, fun hr => ?_⟩
  · rw [h.word, finishDrain_pack]
    split
    next hdraining =>
      obtain ⟨rfl, rfl⟩ := hdraining
      exact ⟨.closed, 0#32, ⟨rfl, h.entrants, fun _ => rfl, fun _ => rfl⟩,
        Or.inr (Or.inr ⟨rfl, rfl⟩)⟩
    next =>
      refine ⟨s, n, ⟨rfl, h.entrants, h.closed, fun hr => ?_⟩, Or.inl rfl⟩
      rcases Bool.or_eq_true_iff.mp hr with hbefore | hnow
      · exact h.reported hbefore
      · exact (of_decide_eq_true hnow).1
  · exact Bool.or_eq_true_iff.mpr (Or.inl hr)

theorem ControlAt.step (h : ControlAt w s n) {action : τ × LoaderStep}
    (hstep : loaderStep w action = some w') : StepsTo w w' s := by
  obtain ⟨t, step⟩ := action
  cases hthread : w.thread t with
  | idle =>
    have hout : ¬ (w.thread t).Entered := by
      rw [hthread]
      exact id
    cases step with
    | callNativeInit entriesUsable =>
      simp only [loaderStep, hthread] at hstep
      split at hstep
      · obtain rfl := Option.some.inj hstep
        exact h.move (.entering .nativeInit w.control) (iff_of_false id hout) rfl rfl rfl
          (absurd rfl)
      · obtain rfl := Option.some.inj hstep
        exact ⟨⟨s, n, h, Or.inl rfl⟩, fun _ hout hin => absurd hin hout, absurd rfl, id⟩
    | callOnModuleLoaded =>
      simp only [loaderStep, hthread, Option.some.injEq] at hstep
      subst hstep
      exact h.move (.entering .onModuleLoaded w.control) (iff_of_false id hout) rfl rfl rfl
        (absurd rfl)
    | callCloseAdmission =>
      simp only [loaderStep, hthread, Option.some.injEq] at hstep
      subst hstep
      exact h.move (.closing w.control) (iff_of_false id hout) rfl rfl rfl (absurd rfl)
    | finishDrain =>
      simp only [loaderStep, hthread, Option.some.injEq] at hstep
      subst hstep
      exact h.finishDrain
    | _ => simp only [loaderStep, hthread, reduceCtorEq] at hstep
  | entering callback current =>
    cases step with
    | tryEnter spurious =>
      simp only [loaderStep, hthread, Option.some.injEq] at hstep
      subst hstep
      exact h.tryEnter spurious hthread
    | _ => simp only [loaderStep, hthread, reduceCtorEq] at hstep
  | inside callback =>
    have hin : (w.thread t).Entered := by
      rw [hthread]
      trivial
    have hphase : LoaderPhase.leaving.Entered ↔ (w.thread t).Entered := iff_of_true trivial hin
    cases step with
    | runBody =>
      simp only [loaderStep, hthread, Option.some.injEq] at hstep
      subst hstep
      cases callback with
      | nativeInit =>
        by_cases hinitialized : w.initialized = true
        · rw [LoaderWorld.runBody, if_pos hinitialized]
          exact h.move .leaving hphase rfl rfl rfl (absurd rfl)
        · rw [LoaderWorld.runBody, if_neg hinitialized]
          exact h.move .leaving hphase rfl rfl rfl fun _ => hin
      | onModuleLoaded => exact h.move .leaving hphase rfl rfl rfl fun _ => hin
    | _ => simp only [loaderStep, hthread, reduceCtorEq] at hstep
  | leaving =>
    cases step with
    | exit =>
      simp only [loaderStep, hthread, Option.some.injEq] at hstep
      subst hstep
      exact h.exit hthread
    | _ => simp only [loaderStep, hthread, reduceCtorEq] at hstep
  | closing current =>
    cases step with
    | tryClose spurious =>
      simp only [loaderStep, hthread, Option.some.injEq] at hstep
      subst hstep
      exact h.tryClose spurious hthread
    | _ => simp only [loaderStep, hthread, reduceCtorEq] at hstep

/-! ## Every run -/

theorem controlAt_run {schedule : List (τ × LoaderStep)} (h : ∃ s n, ControlAt w s n)
    (hrun : run loaderStep w schedule = some w') : ∃ s n, ControlAt w' s n := by
  refine run_invariant (I := fun v => ∃ s n, ControlAt v s n) (fun v _ v' hv hstep => ?_) h hrun
  obtain ⟨s, n, hs⟩ := hv
  obtain ⟨s', n', hs', -⟩ := (hs.step hstep).control
  exact ⟨s', n', hs'⟩

omit [DecidableEq τ] in
/-- Once the drain was reported, nobody is inside. -/
theorem ControlAt.nobody (h : ControlAt w s n) (hreported : w.drainReported = true) (t : τ) :
    ¬ (w.thread t).Entered := by
  have hn := h.closed (h.reported hreported)
  subst hn
  exact census_eq_zero.mp h.entrants t

/-- After the drain was reported, no thread is inside and none schedules anything, ever. -/
theorem drained_run {schedule : List (τ × LoaderStep)} (h : ∃ s n, ControlAt w s n)
    (hreported : w.drainReported = true) (hrun : run loaderStep w schedule = some w') :
    (∀ t, ¬ (w'.thread t).Entered) ∧ w'.scheduled = w.scheduled := by
  have hinv : (∃ s n, ControlAt w' s n) ∧ w'.drainReported = true ∧
      w'.scheduled = w.scheduled := by
    refine run_invariant (I := fun v => (∃ s n, ControlAt v s n) ∧ v.drainReported = true ∧
      v.scheduled = w.scheduled) (fun v _ v' hv hstep => ?_) ⟨h, hreported, rfl⟩ hrun
    obtain ⟨⟨s, n, hcontrol⟩, hreported, hscheduled⟩ := hv
    have hsteps := hcontrol.step hstep
    obtain ⟨s', n', hs', -⟩ := hsteps.control
    refine ⟨⟨s', n', hs'⟩, hsteps.reported hreported, ?_⟩
    by_contra hne
    obtain ⟨t, hin⟩ := hsteps.schedules fun heq => hne (heq.trans hscheduled)
    exact hcontrol.nobody hreported t hin
  obtain ⟨⟨s, n, hcontrol⟩, hreported, hscheduled⟩ := hinv
  exact ⟨hcontrol.nobody hreported, hscheduled⟩

end Invariant

/-- Whatever the threads do, the high half of the word counts the callbacks inside, admission closes
in order and lets nobody in afterwards, and a reported drain is final. -/
theorem loader_callbacks_drained {τ : Type} [DecidableEq τ] (schedule : List (τ × LoaderStep))
    (w : LoaderWorld τ) (hrun : run loaderStep {} schedule = some w) :
    ∃ s : LoaderCallbackState, low w.control = s.toWord ∧
      census LoaderPhase.Entered w.thread = ((loaderCallbackInFlight w.control).toNat : ℕ∞) ∧
      (∀ action w', loaderStep w action = some w' →
        (∃ s' : LoaderCallbackState, low w'.control = s'.toWord ∧ s.Next s') ∧
          ∀ t, ¬ (w.thread t).Entered → (w'.thread t).Entered → s = .active) ∧
      (w.drainReported = true → ∀ more w', run loaderStep w more = some w' →
        (∀ t, ¬ (w'.thread t).Entered) ∧ w'.scheduled = w.scheduled) := by
  have hinv : ∃ s n, ControlAt w s n := controlAt_run ⟨_, _, ControlAt.initial⟩ hrun
  obtain ⟨s, n, hcontrol⟩ := hinv
  refine ⟨s, ?_, ?_, fun action w' hstep => ⟨?_, ?_⟩, fun hreported more w' hmore => ?_⟩
  · rw [hcontrol.word, low_pack]
  · rw [hcontrol.word, inFlight_pack]
    exact hcontrol.entrants
  · obtain ⟨s', n', hs', hnext⟩ := (hcontrol.step hstep).control
    refine ⟨s', ?_, hnext⟩
    rw [hs'.word, low_pack]
  · exact (hcontrol.step hstep).enters
  · exact drained_run ⟨s, n, hcontrol⟩ hreported hmore

/-- Admission closes while `native_init` is inside; the drain is reported once it has left. -/
def initThenDrain : List (Bool × LoaderStep) :=
  [(true, .callNativeInit true), (true, .tryEnter true), (true, .tryEnter false), (true, .runBody),
    (false, .callCloseAdmission), (false, .tryClose false), (false, .finishDrain),
    (true, .exit), (false, .finishDrain)]

theorem loader_callbacks_drained_after_init :
    ∃ w : LoaderWorld Bool, run loaderStep {} initThenDrain = some w ∧ w.drainReported = true ∧
      ∀ more w', run loaderStep w more = some w' →
        (∀ t, ¬ (w'.thread t).Entered) ∧ w'.scheduled = 1 := by
  refine ⟨_, rfl, rfl, ?_⟩
  obtain ⟨-, -, -, -, hdrained⟩ := loader_callbacks_drained initThenDrain _ rfl
  exact hdrained rfl

end DartPlant
