import DartPlant.Lib.Runs
import Mathlib.Logic.Function.Basic

/-! # Capturing the registers of a thread

A thread is sampled by a signal: its handler stores six registers into a global record, and the
sampler waits for the handler, gives up at a timeout, and loads what is in the record.  The calls
come one after the other; the deliveries they cause run when they do, step by step.  Which delivery
has stored a cell is written beside its value.
-/

namespace DartPlant
open Runs Function

/-! ## The handler and the sampler -/

/-- The registers of `CapturedArm64Context`. -/
inductive CaptureRegister where
  | pc | sp | x22 | x26 | x27 | x28
  deriving DecidableEq, Repr

open CaptureRegister

/-- The order in which `CaptureSignalHandler` stores them. -/
def storeOrder : List CaptureRegister := [pc, sp, x22, x26, x27, x28]

/-- The order in which `CaptureThread` loads them. -/
def loadOrder : List CaptureRegister := [pc, sp, x26, x27, x28, x22]

/-- A cell of `g_capture`, and the call whose delivery has stored it. -/
structure CapturedCell where
  value : BitVec 64
  writer : Option Nat
  deriving DecidableEq, Repr

/-- What the kernel hands the handler. -/
abbrev CaptureContext := CaptureRegister → BitVec 64

/-- Where an execution of `CaptureSignalHandler` is. -/
inductive HandlerPlace where
  | pending
  -- The thread is compared next.
  | entered (context : CaptureContext)
  | storing (context : CaptureContext) (rest : List CaptureRegister)
  | stored (context : CaptureContext)
  | ignored

/-- The delivery of the signal of a call. -/
structure CaptureDelivery where
  tid : Int
  place : HandlerPlace

/-- Where `CaptureThread` is. -/
inductive SamplerPlace where
  | idle
  | clearing
  | activating
  | sending
  | failing
  | waiting
  | closing
  | judging
  | loading (rest : List CaptureRegister) (registers : CaptureRegister → CapturedCell)

/-- The global cells, the deliveries by the number of their call, and the latest call. -/
structure ThreadSampler where
  captureActive : Bool := false
  captureReady : Bool := false
  expectedTid : Int := 0
  capture : CaptureRegister → CapturedCell := fun _ => ⟨0, none⟩
  deliveries : Nat → Option CaptureDelivery := fun _ => none
  call : Nat := 0
  tid : Int := 0
  place : SamplerPlace := .idle

inductive SamplerAction where
  -- `CaptureThread` is called, with somewhere to put the registers or not.
  | begin (tid : Int) (hasRegisters : Bool)
  -- The sampler goes on; `sent` is what `tgkill` answers where it is called.
  | sample (sent : Bool)
  -- The timeout is over.
  | giveUp
  -- The handler is entered, with what the kernel hands it.
  | enter (call : Nat) (context : Option CaptureContext)
  | handle (call : Nat)

/-- What `CaptureThread` returns. -/
inductive CaptureOutcome where
  | captured (tid : Int) (registers : CaptureRegister → CapturedCell)
  | signalFailed
  | timedOut

namespace ThreadSampler

def goto (sampler : ThreadSampler) (place : SamplerPlace) : ThreadSampler :=
  { sampler with place := place }

def deliver (sampler : ThreadSampler) (call : Nat) (tid : Int) (place : HandlerPlace) :
    ThreadSampler :=
  { sampler with deliveries := update sampler.deliveries call (some ⟨tid, place⟩) }

/-- The start of `CaptureThread`. -/
def begin (sampler : ThreadSampler) (tid : Int) (hasRegisters : Bool) :
    ThreadSampler × Option CaptureOutcome :=
  match sampler.place with
  | .idle =>
    if hasRegisters then
      ({ sampler with
          expectedTid := tid
          call := sampler.call + 1
          tid := tid
          place := .clearing }, none)
    else (sampler, some .signalFailed)
  | _ => (sampler, none)

/-- The next step of `CaptureThread`. -/
def sample (sampler : ThreadSampler) (sent : Bool) : ThreadSampler × Option CaptureOutcome :=
  match sampler.place with
  | .idle => (sampler, none)
  | .clearing => (goto { sampler with captureReady := false } .activating, none)
  | .activating => (goto { sampler with captureActive := true } .sending, none)
  | .sending =>
    if sent then ((sampler.deliver sampler.call sampler.tid .pending).goto .waiting, none)
    else (sampler.goto .failing, none)
  | .failing => (goto { sampler with captureActive := false } .idle, some .signalFailed)
  | .waiting => (if sampler.captureReady then sampler.goto .closing else sampler, none)
  | .closing => (goto { sampler with captureActive := false } .judging, none)
  | .judging =>
    if sampler.captureReady then (sampler.goto (.loading loadOrder fun _ => ⟨0, none⟩), none)
    else (sampler.goto .idle, some .timedOut)
  | .loading (register :: rest) registers =>
    (sampler.goto (.loading rest
      (update registers register (sampler.capture register))), none)
  | .loading [] registers => (sampler.goto .idle, some (.captured sampler.tid registers))

/-- The wait is over. -/
def giveUp (sampler : ThreadSampler) : ThreadSampler :=
  match sampler.place with
  | .waiting => sampler.goto .closing
  | _ => sampler

/-- `CaptureSignalHandler` up to its first check. -/
def enter (sampler : ThreadSampler) (call : Nat) (context : Option CaptureContext) :
    ThreadSampler :=
  match sampler.deliveries call with
  | some ⟨tid, .pending⟩ =>
    match sampler.captureActive, context with
    | true, some context => sampler.deliver call tid (.entered context)
    | _, _ => sampler.deliver call tid .ignored
  | _ => sampler

/-- The next step of an execution of `CaptureSignalHandler`. -/
def handle (sampler : ThreadSampler) (call : Nat) : ThreadSampler :=
  match sampler.deliveries call with
  | some ⟨tid, .entered context⟩ =>
    sampler.deliver call tid
      (if tid = sampler.expectedTid then .storing context storeOrder else .ignored)
  | some ⟨tid, .storing context (register :: rest)⟩ =>
    deliver { sampler with
      capture := update sampler.capture register ⟨context register, some call⟩ }
      call tid (.storing context rest)
  | some ⟨tid, .storing context []⟩ =>
    deliver { sampler with captureReady := true } call tid (.stored context)
  | _ => sampler

/-- One step, and what `CaptureThread` returns in it. -/
def act (sampler : ThreadSampler) : SamplerAction → ThreadSampler × Option CaptureOutcome
  | .begin tid hasRegisters => sampler.begin tid hasRegisters
  | .sample sent => sampler.sample sent
  | .giveUp => (sampler.giveUp, none)
  | .enter call context => (sampler.enter call context, none)
  | .handle call => (sampler.handle call, none)

def step (sampler : ThreadSampler) (action : SamplerAction) : ThreadSampler :=
  (sampler.act action).1

/-! ## Whose registers are returned -/

/-- Between clearing the ready cell and the last load, a store counts. -/
def Listens : SamplerPlace → Prop
  | .idle | .clearing | .failing => False
  | _ => True

def Listening (sampler : ThreadSampler) : Prop := Listens sampler.place

/-- An execution of the handler for an earlier call stores into the record of this one. -/
def Intrudes (sampler : ThreadSampler) : SamplerAction → Prop
  | .handle call => call ≠ sampler.call ∧ sampler.Listening ∧
      ∃ tid context rest, sampler.deliveries call = some ⟨tid, .storing context rest⟩
  | _ => False

/-- The registers that are returned were stored by the delivery of the call that returns them, on
the thread that was asked for. -/
def Genuine (sampler : ThreadSampler) (action : SamplerAction) : Prop :=
  ∀ tid registers, (sampler.act action).2 = some (.captured tid registers) →
    tid = sampler.tid ∧ ∃ context,
      sampler.deliveries sampler.call = some ⟨tid, .stored context⟩ ∧
        ∀ register, registers register = ⟨context register, some sampler.call⟩

/-- What the handler of this call has stored while the sampler listens. -/
def Stored (sampler : ThreadSampler) : HandlerPlace → Prop
  | .storing context rest => ∀ register, register ∉ rest →
      sampler.capture register = ⟨context register, some sampler.call⟩
  | .stored context => ∀ register,
      sampler.capture register = ⟨context register, some sampler.call⟩
  | _ => True

structure Sound (sampler : ThreadSampler) : Prop where
  fresh : ∀ call, sampler.call < call → sampler.deliveries call = none
  unsent : sampler.place = .clearing ∨ sampler.place = .activating ∨ sampler.place = .sending →
    sampler.deliveries sampler.call = none
  mine : ∀ delivery, sampler.place ≠ .idle → sampler.deliveries sampler.call = some delivery →
    delivery.tid = sampler.tid
  stored : ∀ delivery, sampler.Listening → sampler.deliveries sampler.call = some delivery →
    sampler.Stored delivery.place
  ready : sampler.Listening → sampler.captureReady = true → ∃ context,
    sampler.deliveries sampler.call = some ⟨sampler.tid, .stored context⟩
  loaded : ∀ rest registers, sampler.place = .loading rest registers → ∃ context,
    sampler.deliveries sampler.call = some ⟨sampler.tid, .stored context⟩ ∧
      ∀ register, register ∉ rest → registers register = ⟨context register, some sampler.call⟩

theorem Sound.init : Sound {} :=
  ⟨fun _ _ => rfl, fun _ => rfl, nofun, nofun, nofun, nofun⟩

/-! ### What the steps keep -/

section Steps
variable {sampler : ThreadSampler}

theorem listening_of {place : SamplerPlace} (hplace : sampler.place = place)
    (hlistens : Listens place) : sampler.Listening := by
  unfold Listening
  rw [hplace]
  exact hlistens

variable (h : sampler.Sound)
include h

theorem Sound.setActive (active : Bool) : Sound { sampler with captureActive := active } :=
  ⟨h.fresh, h.unsent, h.mine, h.stored, h.ready, h.loaded⟩

/-- The sampler goes on without listening to more than before. -/
theorem Sound.goto {place : SamplerPlace} (hbusy : sampler.place ≠ .idle)
    (hunsent : place = .clearing ∨ place = .activating ∨ place = .sending →
      sampler.deliveries sampler.call = none)
    (hlistening : (sampler.goto place).Listening → sampler.Listening)
    (hloaded : ∀ rest registers, place = .loading rest registers → ∃ context,
      sampler.deliveries sampler.call = some ⟨sampler.tid, .stored context⟩ ∧
        ∀ register, register ∉ rest → registers register = ⟨context register, some sampler.call⟩) :
    (sampler.goto place).Sound where
  fresh := h.fresh
  unsent := hunsent
  mine delivery _ hdelivery := h.mine delivery hbusy hdelivery
  stored delivery hafter hdelivery := h.stored delivery (hlistening hafter) hdelivery
  ready hafter hready := h.ready (hlistening hafter) hready
  loaded := hloaded

theorem Sound.begin {tid : Int} {hasRegisters : Bool} :
    (sampler.begin tid hasRegisters).1.Sound := by
  unfold ThreadSampler.begin
  split
  next hidle =>
    split
    · have hnone := h.fresh (sampler.call + 1) (Nat.lt_succ_self _)
      constructor
      case fresh =>
        intro call hcall
        exact h.fresh call (Nat.lt_of_succ_lt hcall)
      case unsent =>
        intro _
        exact hnone
      case mine =>
        intro delivery _ hdelivery
        cases hnone.symm.trans hdelivery
      case stored => nofun
      case ready => nofun
      case loaded => nofun
    · exact h
  · exact h

/-- The signal is sent. -/
theorem Sound.send (hsending : sampler.place = .sending) :
    ((sampler.deliver sampler.call sampler.tid .pending).goto .waiting).Sound := by
  have hnone := h.unsent (Or.inr (Or.inr hsending))
  have hlistening : sampler.Listening := listening_of hsending trivial
  have hself : ((sampler.deliver sampler.call sampler.tid .pending).goto .waiting).deliveries
      sampler.call = some ⟨sampler.tid, .pending⟩ := update_self ..
  constructor
  case fresh =>
    intro call hcall
    exact (update_of_ne (Nat.ne_of_gt hcall) ..).trans (h.fresh call hcall)
  case unsent => nofun
  case mine =>
    intro delivery _ hdelivery
    obtain rfl := Option.some.inj (hself.symm.trans hdelivery)
    rfl
  case stored =>
    intro delivery _ hdelivery
    obtain rfl := Option.some.inj (hself.symm.trans hdelivery)
    trivial
  case ready =>
    intro _ hready
    obtain ⟨context, hstored⟩ := h.ready hlistening hready
    cases hnone.symm.trans hstored
  case loaded => nofun

/-- The ready cell is cleared, and the sampler begins to listen. -/
theorem Sound.clear (hclearing : sampler.place = .clearing) :
    (ThreadSampler.goto { sampler with captureReady := false } .activating).Sound := by
  have hnone := h.unsent (Or.inl hclearing)
  constructor
  case fresh => exact h.fresh
  case unsent =>
    intro _
    exact hnone
  case mine =>
    intro delivery _ hdelivery
    cases hnone.symm.trans hdelivery
  case stored =>
    intro delivery _ hdelivery
    cases hnone.symm.trans hdelivery
  case ready => nofun
  case loaded => nofun

/-- Only the delivery of this call makes it ready. -/
theorem Sound.finished (hplace : sampler.place = .judging)
    (hready : sampler.captureReady = true) : ∃ context,
      sampler.deliveries sampler.call = some ⟨sampler.tid, .stored context⟩ :=
  h.ready (listening_of hplace trivial) hready

theorem Sound.load {register : CaptureRegister} {rest : List CaptureRegister}
    {registers : CaptureRegister → CapturedCell}
    (hloading : sampler.place = .loading (register :: rest) registers) :
    (sampler.goto (.loading rest
      (update registers register (sampler.capture register)))).Sound := by
  obtain ⟨context, hdelivery, hloaded⟩ := h.loaded _ _ hloading
  have hlistening : sampler.Listening := listening_of hloading trivial
  have hstored : sampler.Stored (.stored context) := h.stored _ hlistening hdelivery
  refine h.goto (ne_of_eq_of_ne hloading nofun) nofun (fun _ => hlistening) ?_
  intro rest' registers' heq
  obtain ⟨rfl, rfl⟩ := SamplerPlace.loading.inj heq
  refine ⟨context, hdelivery, fun other hother => ?_⟩
  by_cases hsame : other = register
  · subst hsame
    rw [update_self]
    exact hstored other
  · rw [update_of_ne hsame]
    exact hloaded other (List.not_mem_cons_of_ne_of_not_mem hsame hother)

theorem Sound.sample {sent : Bool} : (sampler.sample sent).1.Sound := by
  unfold ThreadSampler.sample
  split
  · exact h
  next hplace => exact h.clear hplace
  next hplace =>
    refine (h.setActive true).goto (ne_of_eq_of_ne hplace nofun) ?_ ?_ nofun
    · exact fun _ => h.unsent (Or.inr (Or.inl hplace))
    · exact fun _ => listening_of hplace trivial
  next hplace =>
    split
    · exact h.send hplace
    · exact h.goto (ne_of_eq_of_ne hplace nofun) nofun nofun nofun
  next hplace => exact (h.setActive false).goto (ne_of_eq_of_ne hplace nofun) nofun nofun nofun
  next hplace =>
    dsimp only
    split
    · exact h.goto (ne_of_eq_of_ne hplace nofun) nofun (fun _ => listening_of hplace trivial) nofun
    · exact h
  next hplace =>
    exact (h.setActive false).goto (ne_of_eq_of_ne hplace nofun) nofun
      (fun _ => listening_of hplace trivial) nofun
  next hplace =>
    split
    next hready =>
      obtain ⟨context, hdelivery⟩ := h.finished hplace hready
      refine h.goto (ne_of_eq_of_ne hplace nofun) nofun (fun _ => listening_of hplace trivial) ?_
      intro rest registers heq
      obtain ⟨rfl, rfl⟩ := SamplerPlace.loading.inj heq
      refine ⟨context, hdelivery, fun register hregister => absurd ?_ hregister⟩
      cases register <;> decide
    · exact h.goto (ne_of_eq_of_ne hplace nofun) nofun nofun nofun
  next hplace => exact h.load hplace
  next hplace => exact h.goto (ne_of_eq_of_ne hplace nofun) nofun nofun nofun

theorem Sound.giveUp : sampler.giveUp.Sound := by
  unfold ThreadSampler.giveUp
  split
  next hplace =>
    exact h.goto (ne_of_eq_of_ne hplace nofun) nofun (fun _ => listening_of hplace trivial) nofun
  · exact h

/-- The handler of an earlier call goes on, and stores only where it does not count. -/
theorem Sound.other {call : Nat} {delivery before : CaptureDelivery}
    (hbefore : sampler.deliveries call = some before) (hother : call ≠ sampler.call)
    {ready : Bool} {capture : CaptureRegister → CapturedCell}
    (hunheard : sampler.Listening → ready = sampler.captureReady ∧ capture = sampler.capture) :
    Sound { sampler with
      captureReady := ready
      capture := capture
      deliveries := update sampler.deliveries call (some delivery) } := by
  have hmine : update sampler.deliveries call (some delivery) sampler.call =
      sampler.deliveries sampler.call := update_of_ne hother.symm ..
  constructor
  case fresh =>
    intro later hlater
    dsimp only at hlater ⊢
    have hne : later ≠ call := by
      rintro rfl
      cases hbefore.symm.trans (h.fresh later hlater)
    rw [update_of_ne hne]
    exact h.fresh later hlater
  case unsent =>
    intro hplace
    exact hmine.trans (h.unsent hplace)
  case mine =>
    intro current hbusy hcurrent
    exact h.mine current hbusy (hmine.symm.trans hcurrent)
  case stored =>
    intro current hlistening hcurrent
    obtain ⟨-, rfl⟩ := hunheard hlistening
    exact h.stored current hlistening (hmine.symm.trans hcurrent)
  case ready =>
    intro hlistening hready
    obtain ⟨rfl, -⟩ := hunheard hlistening
    obtain ⟨context, hstored⟩ := h.ready hlistening hready
    exact ⟨context, hmine.trans hstored⟩
  case loaded =>
    intro rest registers hplace
    obtain ⟨context, hstored, hloaded⟩ := h.loaded rest registers hplace
    exact ⟨context, hmine.trans hstored, hloaded⟩

/-- The handler of this call goes on before it has stored all registers. -/
theorem Sound.own {before after : HandlerPlace} {tid : Int}
    (hbefore : sampler.deliveries sampler.call = some ⟨tid, before⟩)
    (hunfinished : ∀ context, before ≠ .stored context) {ready : Bool}
    {capture : CaptureRegister → CapturedCell}
    (hstored : sampler.Listening → Stored { sampler with capture := capture } after)
    (hready : sampler.Listening → ready = true → sampler.captureReady = true ∨
      ∃ context, after = .stored context) :
    Sound { sampler with
      captureReady := ready
      capture := capture
      deliveries := update sampler.deliveries sampler.call (some ⟨tid, after⟩) } := by
  have hpending : ∀ context, sampler.deliveries sampler.call ≠
      some ⟨sampler.tid, .stored context⟩ := by
    intro context hfinished
    exact hunfinished context
      (congrArg CaptureDelivery.place (Option.some.inj (hbefore.symm.trans hfinished)))
  constructor
  case fresh =>
    intro later hlater
    exact (update_of_ne (Nat.ne_of_gt hlater) ..).trans (h.fresh later hlater)
  case unsent =>
    intro hplace
    cases hbefore.symm.trans (h.unsent hplace)
  case mine =>
    intro delivery hbusy hdelivery
    dsimp only at hdelivery
    rw [update_self] at hdelivery
    obtain rfl := Option.some.inj hdelivery
    exact h.mine ⟨tid, before⟩ hbusy hbefore
  case stored =>
    intro delivery hlistening hdelivery
    dsimp only at hdelivery
    rw [update_self] at hdelivery
    obtain rfl := Option.some.inj hdelivery
    exact hstored hlistening
  case ready =>
    intro hlistening hset
    obtain hold | ⟨context, rfl⟩ := hready hlistening hset
    · obtain ⟨context, hfinished⟩ := h.ready hlistening hold
      exact absurd hfinished (hpending context)
    · refine ⟨context, ?_⟩
      dsimp only
      have htid : tid = sampler.tid := by
        refine h.mine ⟨tid, before⟩ (fun hidle => ?_) hbefore
        have hlistens : Listens sampler.place := hlistening
        rw [hidle] at hlistens
        exact hlistens
      rw [update_self, htid]
  case loaded =>
    intro rest registers hplace
    obtain ⟨context, hfinished, -⟩ := h.loaded rest registers hplace
    exact absurd hfinished (hpending context)

/-- A step of a handler that stores nothing. -/
theorem Sound.deliver {call : Nat} {before after : HandlerPlace} {tid : Int}
    (hbefore : sampler.deliveries call = some ⟨tid, before⟩)
    (hunfinished : ∀ context, before ≠ .stored context)
    (hstored : ∀ now : ThreadSampler, now.Stored after) :
    (sampler.deliver call tid after).Sound := by
  by_cases hown : call = sampler.call
  · subst hown
    exact h.own hbefore hunfinished (fun _ => hstored _) (fun _ hset => Or.inl hset)
  · exact h.other hbefore hown fun _ => ⟨rfl, rfl⟩

theorem Sound.enter {call : Nat} {context : Option CaptureContext} :
    (sampler.enter call context).Sound := by
  unfold ThreadSampler.enter
  split
  next tid hpending =>
    split
    · exact h.deliver hpending nofun (fun _ => trivial)
    · exact h.deliver hpending nofun (fun _ => trivial)
  · exact h

theorem Sound.handle {call : Nat} (hquiet : ¬ sampler.Intrudes (.handle call)) :
    (sampler.handle call).Sound := by
  have hunheard : ∀ {tid context rest}, call ≠ sampler.call →
      sampler.deliveries call = some ⟨tid, .storing context rest⟩ → ¬ sampler.Listening :=
    fun hother hstoring hlistening => hquiet ⟨hother, hlistening, _, _, _, hstoring⟩
  unfold ThreadSampler.handle
  split
  next tid context hentered =>
    split
    · refine h.deliver hentered nofun (fun _ register hregister => absurd ?_ hregister)
      cases register <;> decide
    · exact h.deliver hentered nofun (fun _ => trivial)
  next tid context register rest hstoring =>
    by_cases hown : call = sampler.call
    · subst hown
      refine h.own hstoring nofun (fun hlistening other hother => ?_) fun _ hset => Or.inl hset
      dsimp only
      by_cases hsame : other = register
      · rw [hsame, update_self]
      · rw [update_of_ne hsame]
        exact h.stored _ hlistening hstoring other
          (List.not_mem_cons_of_ne_of_not_mem hsame hother)
    · exact h.other hstoring hown fun hlistening => absurd hlistening (hunheard hown hstoring)
  next tid context hstoring =>
    by_cases hown : call = sampler.call
    · subst hown
      refine h.own hstoring nofun (fun hlistening register => ?_) fun _ _ => Or.inr ⟨context, rfl⟩
      exact h.stored _ hlistening hstoring register List.not_mem_nil
    · exact h.other hstoring hown fun hlistening => absurd hlistening (hunheard hown hstoring)
  · exact h

/-- A step in which no handler of an earlier call intrudes keeps the invariant. -/
theorem Sound.step {action : SamplerAction}
    (hquiet : ¬ sampler.Intrudes action) : (sampler.step action).Sound := by
  cases action with
  | begin tid hasRegisters => exact h.begin
  | sample sent => exact h.sample
  | giveUp => exact h.giveUp
  | enter call context => exact h.enter
  | handle call => exact h.handle hquiet

/-- What is returned has been loaded, all of it. -/
theorem Sound.genuine (action : SamplerAction) : sampler.Genuine action := by
  intro tid registers hreturn
  cases action with
  | begin tid' hasRegisters =>
    dsimp only [act] at hreturn
    unfold ThreadSampler.begin at hreturn
    split at hreturn
    · split at hreturn
      · cases hreturn
      · cases hreturn
    · cases hreturn
  | sample sent =>
    dsimp only [act] at hreturn
    unfold ThreadSampler.sample at hreturn
    split at hreturn
    case h_10 loaded hloading =>
      obtain ⟨rfl, rfl⟩ := CaptureOutcome.captured.inj (Option.some.inj hreturn)
      obtain ⟨context, hdelivery, hloaded⟩ := h.loaded _ _ hloading
      exact ⟨rfl, context, hdelivery, fun register => hloaded register List.not_mem_nil⟩
    case h_4 | h_8 =>
      split at hreturn
      · cases hreturn
      · cases hreturn
    all_goals cases hreturn
  | giveUp => cases hreturn
  | enter call context => cases hreturn
  | handle call => cases hreturn

end Steps

/-! ## Every schedule -/

/-- In a run in which no handler of an earlier call stores while a later one listens, the registers
that a call returns were all stored by the delivery of its own signal. -/
theorem capture_genuine (actions : List SamplerAction)
    (hquiet : AlongSteps step (fun sampler action => ¬ sampler.Intrudes action) {} actions) :
    AlongSteps step Genuine {} actions := by
  intro before action hprefix
  have hsound : Along step Sound {} actions :=
    along_of_invariant (fun _ _ h hstep => h.step hstep) hquiet Sound.init
  exact (hsound before ((List.prefix_append ..).trans hprefix)).genuine action

/-- A call whose handler runs while it waits. -/
def promptCapture : List SamplerAction :=
  [.begin 5 true, .sample true, .sample true, .sample true, .enter 1 (some fun _ => 16)] ++
    List.replicate 8 (.handle 1) ++ List.replicate 10 (.sample true)

theorem capture_genuine_prompt :
    (((promptCapture.take 22).foldl step {}).act (.sample true)).2 =
        some (.captured 5 fun _ => ⟨16, some 1⟩) ∧
      AlongSteps step Genuine {} promptCapture := by
  refine ⟨?_, capture_genuine promptCapture ?_⟩
  · have hregisters : (((promptCapture.take 22).foldl step {}).act (.sample true)).2 =
        some (.captured 5 _) := rfl
    rw [hregisters]
    congr
    funext register
    cases register <;> rfl
  · simp only [promptCapture, List.replicate, List.cons_append, List.nil_append, alongSteps_cons,
      alongSteps_nil, Intrudes, not_false_eq_true, true_and, and_true]
    -- Every handler step is of the only call there is.
    and_intros
    all_goals exact fun hintrudes => hintrudes.1 rfl

/-- A handler that has compared its thread is held up until its call has given up, and goes on in a
call for another thread. -/
def lateCapture : List SamplerAction :=
  [.begin 5 true, .sample true, .sample true, .sample true, .enter 1 (some fun _ => 16), .handle 1,
    .giveUp, .sample true, .sample true, .begin 6 true, .sample true, .sample true, .sample true] ++
    List.replicate 7 (.handle 1) ++ List.replicate 10 (.sample true)

/-- The call for thread 6 returns the registers of thread 5. -/
theorem capture_not_genuine : ¬ AlongSteps step Genuine {} lateCapture := by
  intro hgenuine
  have hlast := hgenuine (lateCapture.take 29) (.sample true) (List.prefix_refl _)
  obtain ⟨-, context, hdelivery, -⟩ := hlast 6 _ rfl
  have hpending : some (⟨6, .pending⟩ : CaptureDelivery) = some ⟨6, .stored context⟩ := hdelivery
  cases hpending

end ThreadSampler

end DartPlant
