import DartPlant.Lib.PartialMaps
import DartPlant.Lib.Runs
import Mathlib.Data.List.Nodup

/-! # The tickets of the Dobby host

Every hook is a transaction of Dobby's, and the host keeps its ticket under the target.  The lock of
the map is dropped around the publication callback and the commit, so any other call can run in
between; what it finds there is an entry that is still preparing.
-/

namespace DartPlant
open PartialMaps Runs Function List

abbrev HookTarget := Nat

/-- A `DobbyHookHandle`; zero is none. -/
abbrev HookTicket := Nat

/-! ## The host -/

inductive PhysicalState where
  | preparing
  | installed
  | recoveryRequired
  deriving DecidableEq, Repr

structure OwnedTransaction where
  ticket : HookTicket
  state : PhysicalState
  deriving DecidableEq, Repr

/-- What `DobbyPrepareHook` answers. -/
structure PrepareResult where
  success : Bool
  handle : HookTicket
  hasOriginal : Bool
  deriving DecidableEq, Repr

/-- What `DobbyCommitHook` answers, as far as a failure is looked at. -/
structure CommitResult where
  success : Bool
  handle : HookTicket := 0
  everPublished : Bool := false
  targetMayBePatched : Bool := false
  recoveryRequired : Bool := false
  deriving DecidableEq, Repr

/-- How `Install` ends. -/
inductive HostHookStatus where
  | success
  | failedNeverPublished
  | failedAfterPublished
  | failedRecoveryRequired
  deriving DecidableEq, Repr

/-- Where an `Install` is that has let go of the lock. -/
inductive InstallPhase where
  -- The callback runs, and the commit.
  | committing
  | committed
  | aborting (everPublished : Bool)
  -- The lock is taken again next, with this handle in the result.
  | settling (handle : HookTicket) (everPublished : Bool)
  deriving DecidableEq, Repr

structure DobbyInstall where
  target : HookTarget
  ticket : HookTicket
  phase : InstallPhase
  deriving DecidableEq, Repr

/-- How Dobby has let go of a ticket. -/
inductive TicketEnd where
  | aborted
  | releasedByCommit
  | destroyed
  | recovered
  deriving DecidableEq, Repr

/-- The host, with its calls under way, and the history of the tickets. -/
structure DobbyHost where
  ownedHooks : HookTarget → Option OwnedTransaction := fun _ => none
  calls : Nat → Option DobbyInstall := fun _ => none
  handedOut : List (HookTarget × HookTicket) := []
  ended : List (HookTicket × TicketEnd) := []

/-- What a step depends on that is not the host's: whether the arguments are valid, what Dobby
answers, and whether there is memory for the entry. -/
structure InstallRequest where
  valid : Bool
  prepared : PrepareResult
  aborted : Bool
  emplaced : Bool
  deriving DecidableEq, Repr

inductive HostAction where
  | install (call : Nat) (target : HookTarget) (request : InstallRequest)
  | commit (call : Nat) (result : CommitResult)
  | abort (call : Nat) (success : Bool)
  | settle (call : Nat)
  | unhook (target : HookTarget) (success : Bool)
  deriving DecidableEq, Repr

/-- What an `Install` returns, and its ticket if it has had one. -/
structure InstallOutcome where
  target : HookTarget
  ticket : HookTicket
  status : HostHookStatus
  deriving DecidableEq, Repr

namespace DobbyHost

/-- A ticket that Dobby has let go of, if it has. -/
def endTicket (host : DobbyHost) (success : Bool) (ticket : HookTicket) (how : TicketEnd) :
    DobbyHost :=
  if success then { host with ended := (ticket, how) :: host.ended } else host

/-- The host has been handed a ticket. -/
def hand (host : DobbyHost) (target : HookTarget) (ticket : HookTicket) : DobbyHost :=
  { host with handedOut := (target, ticket) :: host.handedOut }

/-- The entry and the call of an `Install` that is about to let go of the lock. -/
def reserve (host : DobbyHost) (call : Nat) (target : HookTarget) (ticket : HookTicket) :
    DobbyHost where
  ownedHooks := update host.ownedHooks target (some ⟨ticket, .preparing⟩)
  calls := update host.calls call (some ⟨target, ticket, .committing⟩)
  handedOut := (target, ticket) :: host.handedOut
  ended := host.ended

def setPhase (host : DobbyHost) (call : Nat) (running : DobbyInstall) (phase : InstallPhase) :
    DobbyHost :=
  { host with calls := update host.calls call (some { running with phase := phase }) }

def setState (host : DobbyHost) (target : HookTarget) (ticket : HookTicket)
    (state : PhysicalState) : DobbyHost :=
  match host.ownedHooks target with
  | some owned =>
    if owned.ticket = ticket then
      { host with ownedHooks := update host.ownedHooks target (some ⟨ticket, state⟩) }
    else host
  | none => host

def erase (host : DobbyHost) (target : HookTarget) : DobbyHost :=
  { host with ownedHooks := update host.ownedHooks target none }

def finish (host : DobbyHost) (call : Nat) : DobbyHost :=
  { host with calls := update host.calls call none }

/-- The first part of `Install`, up to where the lock is dropped. -/
def install (host : DobbyHost) (call : Nat) (target : HookTarget) (request : InstallRequest) :
    DobbyHost × Option InstallOutcome :=
  let ticket := request.prepared.handle
  if request.valid = false then (host, some ⟨target, 0, .failedNeverPublished⟩)
  else match host.ownedHooks target with
    | some _ => (host, some ⟨target, 0, .failedNeverPublished⟩)
    | none =>
      if request.prepared.success = false ∨ ticket = 0 then
        (host, some ⟨target, 0, .failedNeverPublished⟩)
      else if request.prepared.hasOriginal = false ∨ request.emplaced = false then
        -- Whether the abort succeeds is not looked at.
        ((host.hand target ticket).endTicket request.aborted ticket .aborted,
          some ⟨target, ticket, .failedNeverPublished⟩)
      else
        (host.reserve call target ticket, none)

/-- The commit, and whether its failure is one that asks for an abort. -/
def commit (host : DobbyHost) (call : Nat) (result : CommitResult) : DobbyHost :=
  match host.calls call with
  | some ⟨target, ticket, .committing⟩ =>
    let running : DobbyInstall := ⟨target, ticket, .committing⟩
    if result.success then host.setPhase call running .committed
    else if result.handle = ticket ∧ result.everPublished = false ∧
        result.targetMayBePatched = false ∧ result.recoveryRequired = false then
      host.setPhase call running (.aborting result.everPublished)
    else
      (host.endTicket (result.handle = 0) ticket .releasedByCommit).setPhase call running
        (.settling result.handle result.everPublished)
  | _ => host

/-- The abort of a commit that has failed. -/
def abort (host : DobbyHost) (call : Nat) (success : Bool) : DobbyHost :=
  match host.calls call with
  | some ⟨target, ticket, .aborting everPublished⟩ =>
    (host.endTicket success ticket .aborted).setPhase call ⟨target, ticket, .aborting everPublished⟩
      (.settling (if success then 0 else ticket) everPublished)
  | _ => host

/-- The last part of `Install`, with the lock. -/
def settle (host : DobbyHost) (call : Nat) : DobbyHost × Option InstallOutcome :=
  match host.calls call with
  | some ⟨target, ticket, .committed⟩ =>
    ((host.setState target ticket .installed).finish call, some ⟨target, ticket, .success⟩)
  | some ⟨target, ticket, .settling handle everPublished⟩ =>
    if handle = 0 then
      ((host.erase target).finish call, some ⟨target, ticket,
        if everPublished then .failedAfterPublished else .failedNeverPublished⟩)
    else
      ((host.setState target ticket .recoveryRequired).finish call,
        some ⟨target, ticket, .failedRecoveryRequired⟩)
  | _ => (host, none)

/-- What `Unhook` calls, and with which ticket. -/
def unhookCall (host : DobbyHost) (target : HookTarget) : Option (HookTicket × TicketEnd) :=
  match host.ownedHooks target with
  | some ⟨ticket, .recoveryRequired⟩ => some (ticket, .recovered)
  | some ⟨ticket, .installed⟩ => some (ticket, .destroyed)
  | _ => none

/-- `Unhook`. -/
def unhook (host : DobbyHost) (target : HookTarget) (success : Bool) : DobbyHost :=
  match host.unhookCall target with
  | some (ticket, how) =>
    if success then (host.erase target).endTicket true ticket how else host
  | none => host

/-- One step of the host, and what an `Install` returns in it. -/
def act (host : DobbyHost) : HostAction → DobbyHost × Option InstallOutcome
  | .install call target request => host.install call target request
  | .commit call result => (host.commit call result, none)
  | .abort call success => (host.abort call success, none)
  | .settle call => host.settle call
  | .unhook target success => (host.unhook target success, none)

def step (host : DobbyHost) (action : HostAction) : DobbyHost := (host.act action).1

/-! ### What the parts of a step change -/

section Parts
variable {host : DobbyHost} {success : Bool} {ticket : HookTicket} {how : TicketEnd}

@[simp] theorem endTicket_ownedHooks :
    (host.endTicket success ticket how).ownedHooks = host.ownedHooks := by
  unfold endTicket
  split <;> rfl

@[simp] theorem endTicket_calls : (host.endTicket success ticket how).calls = host.calls := by
  unfold endTicket
  split <;> rfl

@[simp] theorem endTicket_handedOut :
    (host.endTicket success ticket how).handedOut = host.handedOut := by
  unfold endTicket
  split <;> rfl

theorem mem_endTicket {entry : HookTicket × TicketEnd} :
    entry ∈ (host.endTicket success ticket how).ended ↔
      success = true ∧ entry = (ticket, how) ∨ entry ∈ host.ended := by
  unfold endTicket
  split
  next hsuccess => simp [hsuccess]
  next hfailure => simp [hfailure]

theorem setState_of_owned {target : HookTarget} {before after : PhysicalState}
    (h : host.ownedHooks target = some ⟨ticket, before⟩) :
    host.setState target ticket after = { host with
      ownedHooks := update host.ownedHooks target (some ⟨ticket, after⟩) } := by
  unfold setState
  rw [h]
  exact if_pos rfl

end Parts

/-! ## The invariant -/

/-- Dobby has let go of the ticket, or the host keeps it under its target. -/
def Accounted (host : DobbyHost) (entry : HookTarget × HookTicket) : Prop :=
  (∃ how, (entry.2, how) ∈ host.ended) ∨ ∃ state, host.ownedHooks entry.1 = some ⟨entry.2, state⟩

/-- Calls under way own the entries of their targets, and an entry whose ticket Dobby has let go of
is about to be erased by its call. -/
structure Sound (host : DobbyHost) : Prop where
  fresh : (host.handedOut.map Prod.snd).Nodup
  nonzero : ∀ entry ∈ host.handedOut, entry.2 ≠ 0
  handed : ∀ target owned, host.ownedHooks target = some owned →
    (target, owned.ticket) ∈ host.handedOut
  preparing : ∀ call running, host.calls call = some running →
    host.ownedHooks running.target = some ⟨running.ticket, .preparing⟩
  sole : ∀ call other running running', host.calls call = some running →
    host.calls other = some running' → running.target = running'.target → call = other
  endedHanded : ∀ entry ∈ host.ended, entry.1 ∈ host.handedOut.map Prod.snd
  ending : ∀ target owned how, host.ownedHooks target = some owned →
    (owned.ticket, how) ∈ host.ended → ∃ call everPublished,
      host.calls call = some ⟨target, owned.ticket, .settling 0 everPublished⟩
  let_go : ∀ call target ticket everPublished,
    host.calls call = some ⟨target, ticket, .settling 0 everPublished⟩ →
      ∃ how, (ticket, how) ∈ host.ended
  accounted : ∀ entry ∈ host.handedOut, host.Accounted entry

theorem Sound.init : Sound {} :=
  ⟨nodup_nil, nofun, nofun, nofun, nofun, nofun, nofun, nofun, nofun⟩

section Steps
variable {host : DobbyHost}

variable (h : host.Sound)
include h

/-- A ticket is kept under one target. -/
theorem Sound.target_unique {target target' : HookTarget} {ticket : HookTicket}
    (hfirst : (target, ticket) ∈ host.handedOut) (hsecond : (target', ticket) ∈ host.handedOut) :
    target = target' :=
  congrArg Prod.fst (inj_on_of_nodup_map h.fresh hfirst hsecond rfl)

/-- The host is handed a ticket that Dobby takes back at once. -/
theorem Sound.discard {target : HookTarget} {ticket : HookTicket}
    (hnonzero : ticket ≠ 0) (hfresh : ticket ∉ host.handedOut.map Prod.snd) :
    ((host.hand target ticket).endTicket true ticket .aborted).Sound := by
  constructor
  case fresh => exact nodup_cons.mpr ⟨hfresh, h.fresh⟩
  case nonzero => exact forall_mem_cons.mpr ⟨hnonzero, h.nonzero⟩
  case handed =>
    intro target' owned howned
    exact mem_cons_of_mem _ (h.handed target' owned howned)
  case preparing => exact h.preparing
  case sole => exact h.sole
  case endedHanded =>
    refine forall_mem_cons.mpr ⟨mem_cons_self, fun entry hentry => ?_⟩
    exact mem_cons_of_mem _ (h.endedHanded entry hentry)
  case ending =>
    intro target' owned how howned hended
    obtain hnew | hold := mem_cons.mp hended
    · obtain ⟨hticket, -⟩ := Prod.mk.inj hnew
      have hmem := mem_map_of_mem (f := Prod.snd) (h.handed target' owned howned)
      rw [hticket] at hmem
      exact absurd hmem hfresh
    · exact h.ending target' owned how howned hold
  case let_go =>
    intro call target' ticket' everPublished hcall
    obtain ⟨how, hhow⟩ := h.let_go call target' ticket' everPublished hcall
    exact ⟨how, mem_cons_of_mem _ hhow⟩
  case accounted =>
    refine forall_mem_cons.mpr ⟨Or.inl ⟨.aborted, mem_cons_self⟩, fun entry hentry => ?_⟩
    refine (h.accounted entry hentry).imp_left ?_
    rintro ⟨how, hhow⟩
    exact ⟨how, mem_cons_of_mem _ hhow⟩

/-- The host keeps a ticket and lets go of the lock. -/
theorem Sound.reserve {call : Nat} {target : HookTarget} {ticket : HookTicket}
    (hnonzero : ticket ≠ 0) (hfresh : ticket ∉ host.handedOut.map Prod.snd)
    (hcall : host.calls call = none) (hfree : host.ownedHooks target = none) :
    (host.reserve call target ticket).Sound := by
  -- Nothing under way is about this target.
  have hother : ∀ other running, host.calls other = some running → running.target ≠ target := by
    intro other running hrunning htarget
    have howned := h.preparing other running hrunning
    rw [htarget, hfree] at howned
    cases howned
  constructor
  case fresh => exact nodup_cons.mpr ⟨hfresh, h.fresh⟩
  case nonzero => exact forall_mem_cons.mpr ⟨hnonzero, h.nonzero⟩
  case handed =>
    intro target' owned howned
    obtain ⟨rfl, hnew⟩ | ⟨-, hold⟩ := write_eq_some.mp howned
    · obtain rfl := Option.some.inj hnew
      exact mem_cons_self
    · exact mem_cons_of_mem _ (h.handed target' owned hold)
  case preparing =>
    intro other running hrunning
    obtain ⟨-, hnew⟩ | ⟨-, hold⟩ := write_eq_some.mp hrunning
    · obtain rfl := Option.some.inj hnew
      exact update_self ..
    · exact held_of_free hfree (h.preparing other running hold)
  case sole =>
    intro first second running running' hfirst hsecond htarget
    obtain ⟨heq, hnew⟩ | ⟨-, hold⟩ := write_eq_some.mp hfirst
    · obtain ⟨heq', -⟩ | ⟨-, hold'⟩ := write_eq_some.mp hsecond
      · exact heq.trans heq'.symm
      · obtain rfl := Option.some.inj hnew
        exact absurd htarget.symm (hother second running' hold')
    · obtain ⟨-, hnew⟩ | ⟨-, hold'⟩ := write_eq_some.mp hsecond
      · obtain rfl := Option.some.inj hnew
        exact absurd htarget (hother first running hold)
      · exact h.sole first second running running' hold hold' htarget
  case endedHanded =>
    intro entry hentry
    exact mem_cons_of_mem _ (h.endedHanded entry hentry)
  case ending =>
    intro target' owned how howned hended
    obtain ⟨-, hnew⟩ | ⟨-, hold⟩ := write_eq_some.mp howned
    · obtain rfl := Option.some.inj hnew
      exact absurd (h.endedHanded _ hended) hfresh
    · obtain ⟨other, everPublished, hsettling⟩ := h.ending target' owned how hold hended
      exact ⟨other, everPublished, held_of_free hcall hsettling⟩
  case let_go =>
    intro other target' ticket' everPublished hsettling
    obtain ⟨-, hnew⟩ | ⟨-, hold⟩ := write_eq_some.mp hsettling
    · cases hnew
    · exact h.let_go other target' ticket' everPublished hold
  case accounted =>
    refine forall_mem_cons.mpr ⟨Or.inr ⟨.preparing, update_self ..⟩, ?_⟩
    intro entry hentry
    refine (h.accounted entry hentry).imp_right ?_
    rintro ⟨state, howned⟩
    exact ⟨state, held_of_free hfree howned⟩

/-- A call under way goes on, and lets Dobby's end of its ticket be known when it is about to erase
its entry. -/
theorem Sound.setPhase {call : Nat} {running : DobbyInstall} {phase : InstallPhase}
    {success : Bool} {how : TicketEnd} (hcall : host.calls call = some running)
    (hbefore : ∀ handle everPublished, running.phase ≠ .settling handle everPublished)
    (hend : success = true ↔ ∃ everPublished, phase = .settling 0 everPublished) :
    ((host.endTicket success running.ticket how).setPhase call running phase).Sound := by
  have howned := h.preparing call running hcall
  have hhanded := h.handed _ _ howned
  constructor
  case fresh =>
    simp only [DobbyHost.setPhase, endTicket_handedOut]
    exact h.fresh
  case nonzero =>
    simp only [DobbyHost.setPhase, endTicket_handedOut]
    exact h.nonzero
  case handed =>
    simp only [DobbyHost.setPhase, endTicket_handedOut, endTicket_ownedHooks]
    exact h.handed
  case preparing =>
    intro other running' hrunning
    simp only [DobbyHost.setPhase, endTicket_calls, endTicket_ownedHooks] at hrunning ⊢
    obtain ⟨-, hnew⟩ | ⟨-, hold⟩ := write_eq_some.mp hrunning
    · obtain rfl := Option.some.inj hnew
      exact howned
    · exact h.preparing other running' hold
  case sole =>
    have hold : ∀ other running', update host.calls call
        (some { running with phase := phase }) other = some running' →
        ∃ before, host.calls other = some before ∧ before.target = running'.target := by
      intro other running' hrunning
      obtain ⟨rfl, hnew⟩ | ⟨-, hold⟩ := write_eq_some.mp hrunning
      · obtain rfl := Option.some.inj hnew
        exact ⟨running, hcall, rfl⟩
      · exact ⟨running', hold, rfl⟩
    intro first second running' running'' hfirst hsecond htarget
    simp only [DobbyHost.setPhase, endTicket_calls] at hfirst hsecond
    obtain ⟨before, hbefore, htarget'⟩ := hold first running' hfirst
    obtain ⟨before', hbefore', htarget''⟩ := hold second running'' hsecond
    exact h.sole first second before before' hbefore hbefore'
      (htarget'.trans (htarget.trans htarget''.symm))
  case endedHanded =>
    intro entry hentry
    simp only [DobbyHost.setPhase, endTicket_handedOut] at hentry ⊢
    obtain ⟨-, rfl⟩ | hentry := mem_endTicket.mp hentry
    · exact mem_map_of_mem (f := Prod.snd) hhanded
    · exact h.endedHanded entry hentry
  case ending =>
    intro target owned how' howned' hended
    simp only [DobbyHost.setPhase, endTicket_calls, endTicket_ownedHooks] at howned' hended ⊢
    obtain ⟨hsuccess, hnew⟩ | hended := mem_endTicket.mp hended
    · obtain ⟨everPublished, rfl⟩ := hend.mp hsuccess
      obtain ⟨hticket, -⟩ := Prod.mk.inj hnew
      have hhanded' := h.handed target owned howned'
      rw [hticket] at hhanded'
      obtain rfl := h.target_unique hhanded' hhanded
      refine ⟨call, everPublished, ?_⟩
      rw [update_self, hticket]
    · obtain ⟨other, everPublished, hsettling⟩ := h.ending target owned how' howned' hended
      refine ⟨other, everPublished, held_of_ne ?_ hsettling⟩
      rintro rfl
      obtain rfl := Option.some.inj (hcall.symm.trans hsettling)
      exact hbefore 0 everPublished rfl
  case let_go =>
    intro other target ticket everPublished hsettling
    simp only [DobbyHost.setPhase, endTicket_calls] at hsettling ⊢
    obtain ⟨-, hnew⟩ | ⟨-, hold⟩ := write_eq_some.mp hsettling
    · have hrunning := Option.some.inj hnew
      have hticket : running.ticket = ticket := congrArg DobbyInstall.ticket hrunning
      have hphase : phase = .settling 0 everPublished := congrArg DobbyInstall.phase hrunning
      exact ⟨how, mem_endTicket.mpr (Or.inl ⟨hend.mpr ⟨everPublished, hphase⟩, by rw [hticket]⟩)⟩
    · obtain ⟨how', hhow'⟩ := h.let_go other target ticket everPublished hold
      exact ⟨how', mem_endTicket.mpr (Or.inr hhow')⟩
  case accounted =>
    intro entry hentry
    simp only [DobbyHost.setPhase, endTicket_handedOut] at hentry
    unfold Accounted
    simp only [DobbyHost.setPhase, endTicket_ownedHooks]
    refine (h.accounted entry hentry).imp_left ?_
    rintro ⟨how', hhow'⟩
    exact ⟨how', mem_endTicket.mpr (Or.inr hhow')⟩

/-- A call under way goes on with its ticket. -/
theorem Sound.advance {call : Nat} {running : DobbyInstall} {phase : InstallPhase}
    (hcall : host.calls call = some running)
    (hbefore : ∀ handle everPublished, running.phase ≠ .settling handle everPublished)
    (hafter : ∀ everPublished, phase ≠ .settling 0 everPublished) :
    (host.setPhase call running phase).Sound :=
  @Sound.setPhase host h call running phase false .aborted hcall hbefore
    ⟨nofun, fun ⟨everPublished, hphase⟩ => absurd hphase (hafter everPublished)⟩

/-- A call ends, with an entry for its ticket if and only if Dobby has not let go of it. -/
theorem Sound.conclude {call : Nat} {running : DobbyInstall}
    {entry : Option OwnedTransaction} (hcall : host.calls call = some running)
    (hentry : (entry = none ∧ ∃ how, (running.ticket, how) ∈ host.ended) ∨
      ∃ state, entry = some ⟨running.ticket, state⟩ ∧ ∀ how, (running.ticket, how) ∉ host.ended) :
    Sound { host with
      ownedHooks := update host.ownedHooks running.target entry
      calls := update host.calls call none } := by
  have howned := h.preparing call running hcall
  have hkept : ∀ target owned, update host.ownedHooks running.target entry target =
      some owned → ∃ before, host.ownedHooks target = some before ∧ before.ticket = owned.ticket ∧
        (target = running.target → ∀ how, (owned.ticket, how) ∉ host.ended) := by
    intro target owned hafter
    obtain ⟨rfl, hnew⟩ | ⟨hne, hold⟩ := write_eq_some.mp hafter
    · obtain ⟨rfl, -⟩ | ⟨state, rfl, hlive⟩ := hentry
      · cases hnew
      · obtain rfl := Option.some.inj hnew
        exact ⟨_, howned, rfl, fun _ => hlive⟩
    · exact ⟨owned, hold, rfl, fun htarget => absurd htarget hne⟩
  have hothers : ∀ other running', update host.calls call none other = some running' →
      host.calls other = some running' ∧ running'.target ≠ running.target := by
    intro other running' hrunning
    obtain ⟨hne, hold⟩ := remove_eq_some.mp hrunning
    exact ⟨hold, fun htarget => hne (h.sole other call running' running hold hcall htarget)⟩
  constructor
  case fresh => exact h.fresh
  case nonzero => exact h.nonzero
  case handed =>
    intro target owned hafter
    obtain ⟨before, hbefore, hticket, -⟩ := hkept target owned hafter
    rw [← hticket]
    exact h.handed target before hbefore
  case preparing =>
    intro other running' hrunning
    obtain ⟨hrunning, htarget⟩ := hothers other running' hrunning
    exact held_of_ne htarget (h.preparing other running' hrunning)
  case sole =>
    intro first second running' running'' hfirst hsecond
    exact h.sole first second running' running'' (hothers first running' hfirst).1
      (hothers second running'' hsecond).1
  case endedHanded => exact h.endedHanded
  case ending =>
    intro target owned how hafter hended
    obtain ⟨before, hbefore, hticket, hlive⟩ := hkept target owned hafter
    rw [← hticket] at hended
    obtain ⟨other, everPublished, hsettling⟩ := h.ending target before how hbefore hended
    rw [hticket] at hended hsettling
    refine ⟨other, everPublished, remove_eq_some.mpr ⟨?_, hsettling⟩⟩
    rintro rfl
    obtain rfl := Option.some.inj (hcall.symm.trans hsettling)
    exact hlive rfl how hended
  case let_go =>
    intro other target ticket everPublished hsettling
    exact h.let_go other target ticket everPublished (hothers other _ hsettling).1
  case accounted =>
    intro handed hhanded
    obtain hended | ⟨state, howned'⟩ := h.accounted handed hhanded
    · exact Or.inl hended
    · by_cases heq : handed.1 = running.target
      · rw [heq, howned] at howned'
        have hticket : running.ticket = handed.2 :=
          congrArg OwnedTransaction.ticket (Option.some.inj howned')
        obtain ⟨-, how, hended⟩ | ⟨state', rfl, -⟩ := hentry
        · exact Or.inl ⟨how, hticket ▸ hended⟩
        · refine Or.inr ⟨state', ?_⟩
          dsimp only
          rw [heq, update_self, hticket]
      · exact Or.inr ⟨state, held_of_ne heq howned'⟩

/-- An entry that is not preparing is not of a call under way. -/
theorem Sound.idle {target : HookTarget} {owned : OwnedTransaction}
    (howned : host.ownedHooks target = some owned) (hsettled : owned.state ≠ .preparing)
    {call : Nat} {running : DobbyInstall} (hrunning : host.calls call = some running) :
    running.target ≠ target := by
  intro htarget
  have hpreparing := h.preparing call running hrunning
  rw [htarget, howned] at hpreparing
  exact hsettled (congrArg OwnedTransaction.state (Option.some.inj hpreparing))

/-- Dobby lets go of the ticket of a settled entry, which is erased. -/
theorem Sound.letGo {target : HookTarget} {ticket : HookTicket}
    {state : PhysicalState} {how : TicketEnd}
    (howned : host.ownedHooks target = some ⟨ticket, state⟩) (hsettled : state ≠ .preparing) :
    ((host.erase target).endTicket true ticket how).Sound := by
  have hhanded : (target, ticket) ∈ host.handedOut := h.handed _ _ howned
  constructor
  case fresh => exact h.fresh
  case nonzero => exact h.nonzero
  case handed =>
    intro target' owned hafter
    exact h.handed target' owned (remove_eq_some.mp hafter).2
  case preparing =>
    intro call running hrunning
    exact held_of_ne (h.idle howned hsettled hrunning) (h.preparing call running hrunning)
  case sole => exact h.sole
  case endedHanded =>
    refine forall_mem_cons.mpr ⟨mem_map_of_mem (f := Prod.snd) hhanded, h.endedHanded⟩
  case ending =>
    intro target' owned how' hafter hended
    obtain ⟨hne, hbefore⟩ := remove_eq_some.mp hafter
    obtain hnew | hold := mem_cons.mp hended
    · obtain ⟨hticket, -⟩ := Prod.mk.inj hnew
      have hhanded' := h.handed target' owned hbefore
      rw [hticket] at hhanded'
      exact absurd (h.target_unique hhanded' hhanded) hne
    · exact h.ending target' owned how' hbefore hold
  case let_go =>
    intro call target' ticket' everPublished hsettling
    obtain ⟨how', hhow'⟩ := h.let_go call target' ticket' everPublished hsettling
    exact ⟨how', mem_cons_of_mem _ hhow'⟩
  case accounted =>
    intro entry hentry
    obtain ⟨how', hended⟩ | ⟨state', howned'⟩ := h.accounted entry hentry
    · exact Or.inl ⟨how', mem_cons_of_mem _ hended⟩
    · by_cases heq : entry.1 = target
      · rw [heq, howned] at howned'
        have hticket : ticket = entry.2 :=
          congrArg OwnedTransaction.ticket (Option.some.inj howned')
        exact Or.inl ⟨how, by rw [← hticket]; exact mem_cons_self⟩
      · exact Or.inr ⟨state', held_of_ne heq howned'⟩

end Steps

/-! ## Steps -/

/-- A call has a number of its own while it is under way, and Dobby hands out a ticket once. -/
def Enabled (host : DobbyHost) : HostAction → Prop
  | .install call _ request => host.calls call = none ∧
      (request.prepared.success = true →
        request.prepared.handle ∉ host.handedOut.map Prod.snd)
  | _ => True

/-- Dobby prepares a hook that cannot be kept, and its abort fails. -/
def Abandons (host : DobbyHost) : HostAction → Prop
  | .install _ target request => request.valid = true ∧ host.ownedHooks target = none ∧
      request.prepared.success = true ∧ request.prepared.handle ≠ 0 ∧
      (request.prepared.hasOriginal = false ∨ request.emplaced = false) ∧ request.aborted = false
  | _ => False

/-- What an `Install` that returns leaves behind. -/
def Returned (before after : DobbyHost) (outcome : InstallOutcome) : Prop :=
  match outcome.status with
  | .success => after.ownedHooks outcome.target = some ⟨outcome.ticket, .installed⟩
  | .failedNeverPublished | .failedAfterPublished => ∀ target owned,
      after.ownedHooks target = some owned →
        before.ownedHooks target = some owned ∧ owned.ticket ≠ outcome.ticket
  | .failedRecoveryRequired =>
      after.ownedHooks outcome.target = some ⟨outcome.ticket, .recoveryRequired⟩

/-- What holds of a step: a destroy or a recover is of a ticket that was prepared for its target,
that no call is preparing and that Dobby has not let go of; an `Install` leaves what it returns; and
a ticket to recover stays until it is. -/
structure Lawful (host : DobbyHost) (action : HostAction) : Prop where
  releases : ∀ target success ticket how, action = .unhook target success →
    host.unhookCall target = some (ticket, how) → (target, ticket) ∈ host.handedOut ∧
      (∀ call running, host.calls call = some running → running.ticket ≠ ticket) ∧
        ∀ how', (ticket, how') ∉ host.ended
  returns : ∀ outcome, (host.act action).2 = some outcome →
    Returned host (host.step action) outcome
  keeps : ∀ target ticket, host.ownedHooks target = some ⟨ticket, .recoveryRequired⟩ →
    (host.step action).ownedHooks target = some ⟨ticket, .recoveryRequired⟩ ∨
      action = .unhook target true

/-- What holds of a state: a ticket is under one target, and none that was handed out is lost. -/
structure Kept (host : DobbyHost) : Prop where
  unique : ∀ target target' owned owned', host.ownedHooks target = some owned →
    host.ownedHooks target' = some owned' → owned.ticket = owned'.ticket → target = target'
  accounted : ∀ entry ∈ host.handedOut, host.Accounted entry

theorem Sound.kept {host : DobbyHost} (h : host.Sound) : host.Kept := by
  refine ⟨fun target target' owned owned' howned howned' hticket => ?_, h.accounted⟩
  have hhanded := h.handed target owned howned
  rw [hticket] at hhanded
  exact h.target_unique hhanded (h.handed target' owned' howned')

section Actions
variable {host : DobbyHost}

variable (h : host.Sound)
include h

theorem Sound.install {call : Nat} {target : HookTarget} {request : InstallRequest}
    (henabled : host.Enabled (.install call target request))
    (hkept : ¬ host.Abandons (.install call target request)) :
    (host.install call target request).1.Sound := by
  obtain ⟨hcall, hfresh⟩ := henabled
  unfold DobbyHost.install
  dsimp only
  split
  · exact h
  next hvalid =>
    split
    · exact h
    next hfree =>
      split
      · exact h
      next hprepared =>
        obtain ⟨hsuccess, hnonzero⟩ := not_or.mp hprepared
        have hsuccess := Bool.not_eq_false _ ▸ hsuccess
        split
        next hdiscarded =>
          have haborted : request.aborted = true := by
            by_contra hfailed
            exact hkept ⟨Bool.not_eq_false _ ▸ hvalid, hfree, hsuccess, hnonzero, hdiscarded,
              Bool.eq_false_iff.mpr hfailed⟩
          rw [haborted]
          exact h.discard hnonzero (hfresh hsuccess)
        next => exact h.reserve hnonzero (hfresh hsuccess) hcall hfree

theorem Sound.commit {call : Nat} {result : CommitResult} : (host.commit call result).Sound := by
  unfold DobbyHost.commit
  split
  next target ticket hcall =>
    dsimp only
    split
    · exact h.advance hcall nofun nofun
    split
    · exact h.advance hcall nofun nofun
    · refine h.setPhase hcall nofun ⟨fun hzero => ⟨result.everPublished, ?_⟩, ?_⟩
      · rw [of_decide_eq_true hzero]
      · rintro ⟨everPublished, hphase⟩
        exact decide_eq_true (InstallPhase.settling.inj hphase).1
  · exact h

theorem Sound.abort {call : Nat} {success : Bool} : (host.abort call success).Sound := by
  unfold DobbyHost.abort
  split
  next target ticket everPublished hcall =>
    have hnonzero := h.nonzero _ (h.handed _ _ (h.preparing call _ hcall))
    refine h.setPhase hcall nofun ⟨fun hsuccess => ⟨everPublished, by rw [if_pos hsuccess]⟩, ?_⟩
    rintro ⟨published, hphase⟩
    by_contra hfailed
    rw [if_neg hfailed] at hphase
    exact hnonzero (InstallPhase.settling.inj hphase).1
  · exact h

/-- A call whose handle is not gone has a ticket that Dobby has not let go of. -/
theorem Sound.live {call : Nat} {running : DobbyInstall} (hcall : host.calls call = some running)
    (hphase : ∀ everPublished, running.phase ≠ .settling 0 everPublished) (how : TicketEnd) :
    (running.ticket, how) ∉ host.ended := by
  intro hended
  obtain ⟨other, everPublished, hsettling⟩ :=
    h.ending _ _ how (h.preparing call running hcall) hended
  obtain rfl := h.sole call other running _ hcall hsettling rfl
  have hrunning := Option.some.inj (hcall.symm.trans hsettling)
  exact hphase everPublished (congrArg DobbyInstall.phase hrunning)

theorem Sound.settle {call : Nat} : (host.settle call).1.Sound := by
  unfold DobbyHost.settle
  split
  next target ticket hcall =>
    rw [setState_of_owned (h.preparing call _ hcall)]
    exact h.conclude hcall (Or.inr ⟨.installed, rfl, h.live hcall nofun⟩)
  next target ticket handle everPublished hcall =>
    split
    next hzero =>
      subst hzero
      exact h.conclude hcall (Or.inl ⟨rfl, h.let_go call target ticket everPublished hcall⟩)
    next hhandle =>
      dsimp only
      rw [setState_of_owned (h.preparing call _ hcall)]
      refine h.conclude hcall (Or.inr ⟨.recoveryRequired, rfl, h.live hcall ?_⟩)
      intro published hphase
      exact hhandle (InstallPhase.settling.inj hphase).1
  · exact h

omit h in
/-- What is destroyed or recovered is in a settled entry. -/
theorem unhookCall_eq_some {target : HookTarget} {ticket : HookTicket} {how : TicketEnd}
    (h : host.unhookCall target = some (ticket, how)) :
    ∃ state, host.ownedHooks target = some ⟨ticket, state⟩ ∧ state ≠ .preparing := by
  unfold unhookCall at h
  split at h
  next howned =>
    obtain ⟨rfl, -⟩ := Prod.mk.inj (Option.some.inj h)
    exact ⟨_, howned, nofun⟩
  next howned =>
    obtain ⟨rfl, -⟩ := Prod.mk.inj (Option.some.inj h)
    exact ⟨_, howned, nofun⟩
  next => cases h

theorem Sound.unhook {target : HookTarget} {success : Bool} :
    (host.unhook target success).Sound := by
  unfold DobbyHost.unhook
  split
  next ticket how hcall =>
    obtain ⟨state, howned, hsettled⟩ := unhookCall_eq_some hcall
    split
    · exact h.letGo howned hsettled
    · exact h
  · exact h

/-! ### What a step does -/

/-- What is destroyed or recovered was prepared for its target, no call is preparing it, and Dobby
has not let go of it. -/
theorem Sound.releases {target : HookTarget} {ticket : HookTicket}
    {how : TicketEnd} (hcall : host.unhookCall target = some (ticket, how)) :
    (target, ticket) ∈ host.handedOut ∧
      (∀ call running, host.calls call = some running → running.ticket ≠ ticket) ∧
        ∀ how', (ticket, how') ∉ host.ended := by
  obtain ⟨state, howned, hsettled⟩ := unhookCall_eq_some hcall
  have hhanded : (target, ticket) ∈ host.handedOut := h.handed _ _ howned
  have hidle : ∀ call running, host.calls call = some running → running.ticket ≠ ticket := by
    intro call running hrunning hticket
    have hpreparing := h.preparing call running hrunning
    have hhanded' := h.handed _ _ hpreparing
    dsimp only at hhanded'
    rw [hticket] at hhanded'
    rw [h.target_unique hhanded' hhanded, howned] at hpreparing
    exact hsettled (congrArg OwnedTransaction.state (Option.some.inj hpreparing))
  refine ⟨hhanded, hidle, fun how' hended => ?_⟩
  obtain ⟨call, everPublished, hsettling⟩ := h.ending _ _ how' howned hended
  exact hidle call _ hsettling rfl

/-- A step that abandons no ticket keeps the invariant. -/
theorem Sound.step {action : HostAction} (henabled : host.Enabled action)
    (hkept : ¬ host.Abandons action) : (host.step action).Sound := by
  cases action with
  | install call target request => exact h.install henabled hkept
  | commit call result => exact h.commit
  | abort call success => exact h.abort
  | settle call => exact h.settle
  | unhook target success => exact h.unhook

/-- A call that returns without its ticket in an entry leaves the others as they are. -/
theorem Sound.apart {ticket : HookTicket}
    (hticket : ticket ∉ host.handedOut.map Prod.snd) {target : HookTarget}
    {owned : OwnedTransaction} (howned : host.ownedHooks target = some owned) : owned.ticket ≠ ticket := by
  intro heq
  have hmem := mem_map_of_mem (f := Prod.snd) (h.handed target owned howned)
  rw [heq] at hmem
  exact hticket hmem

theorem Sound.install_returns {call : Nat} {target : HookTarget}
    {request : InstallRequest} (henabled : host.Enabled (.install call target request))
    {outcome : InstallOutcome} (hreturn : (host.install call target request).2 = some outcome) :
    Returned host (host.install call target request).1 outcome := by
  obtain ⟨hcall, hfresh⟩ := henabled
  have hnone : 0 ∉ host.handedOut.map Prod.snd := by
    intro hmem
    obtain ⟨entry, hentry, hzero⟩ := mem_map.mp hmem
    exact h.nonzero entry hentry hzero
  have hrefused : Returned host host ⟨target, 0, .failedNeverPublished⟩ :=
    fun _ _ howned => ⟨howned, h.apart hnone howned⟩
  unfold DobbyHost.install at hreturn ⊢
  dsimp only at hreturn ⊢
  split
  next hvalid =>
    rw [if_pos hvalid] at hreturn
    obtain rfl := Option.some.inj hreturn
    exact hrefused
  next hvalid =>
    rw [if_neg hvalid] at hreturn
    split
    next hoccupied =>
      rw [hoccupied] at hreturn
      obtain rfl := Option.some.inj hreturn
      exact hrefused
    next hfree =>
      rw [hfree] at hreturn
      dsimp only at hreturn
      split
      next hprepared =>
        rw [if_pos hprepared] at hreturn
        obtain rfl := Option.some.inj hreturn
        exact hrefused
      next hprepared =>
        rw [if_neg hprepared] at hreturn
        obtain ⟨hsuccess, -⟩ := not_or.mp hprepared
        split
        next hdiscarded =>
          rw [if_pos hdiscarded] at hreturn
          obtain rfl := Option.some.inj hreturn
          intro target' owned howned
          simp only [endTicket_ownedHooks] at howned
          exact ⟨howned, h.apart (hfresh (Bool.not_eq_false _ ▸ hsuccess)) howned⟩
        next hreserved =>
          rw [if_neg hreserved] at hreturn
          cases hreturn

theorem Sound.settle_returns {call : Nat} {outcome : InstallOutcome}
    (hreturn : (host.settle call).2 = some outcome) :
    Returned host (host.settle call).1 outcome := by
  unfold DobbyHost.settle at hreturn ⊢
  split
  next target ticket hcall =>
    rw [hcall] at hreturn
    obtain rfl := Option.some.inj hreturn
    dsimp only
    rw [setState_of_owned (h.preparing call _ hcall)]
    exact update_self ..
  next target ticket handle everPublished hcall =>
    rw [hcall] at hreturn
    dsimp only at hreturn
    have hpreparing := h.preparing call _ hcall
    split
    next hzero =>
      rw [if_pos hzero] at hreturn
      obtain rfl := Option.some.inj hreturn
      have herased : ∀ target' owned,
          (host.erase target).ownedHooks target' = some owned →
            host.ownedHooks target' = some owned ∧ owned.ticket ≠ ticket := by
        intro target' owned howned
        obtain ⟨hne, howned⟩ := remove_eq_some.mp howned
        refine ⟨howned, fun hticket => hne ?_⟩
        have hhanded := h.handed target' owned howned
        rw [hticket] at hhanded
        exact h.target_unique hhanded (h.handed target _ hpreparing)
      cases everPublished with
      | true => exact herased
      | false => exact herased
    next hhandle =>
      rw [if_neg hhandle] at hreturn
      obtain rfl := Option.some.inj hreturn
      dsimp only
      rw [setState_of_owned hpreparing]
      exact update_self ..
  next hcommitted hsettling =>
    split at hreturn
    next hcall => exact absurd hcall (hcommitted _ _)
    next hcall => exact absurd hcall (hsettling _ _ _ _)
    next => cases hreturn

/-- An entry to recover is changed by a recover only. -/
theorem Sound.keeps {action : HostAction} {target : HookTarget} {ticket : HookTicket}
    (howned : host.ownedHooks target = some ⟨ticket, .recoveryRequired⟩) :
    (host.step action).ownedHooks target = some ⟨ticket, .recoveryRequired⟩ ∨
      action = .unhook target true := by
  have hidle : ∀ call running, host.calls call = some running → target ≠ running.target :=
    fun _ _ hrunning => (h.idle howned nofun hrunning).symm
  cases action with
  | install call target' request =>
    refine Or.inl ?_
    show (host.install call target' request).1.ownedHooks target = _
    unfold DobbyHost.install
    dsimp only
    split
    · exact howned
    split
    · exact howned
    next hfree =>
      split
      · exact howned
      split
      · rw [endTicket_ownedHooks]
        exact howned
      · exact held_of_free hfree howned
  | commit call result =>
    refine Or.inl ?_
    show (host.commit call result).ownedHooks target = _
    unfold DobbyHost.commit
    split
    · dsimp only
      split
      · exact howned
      split
      · exact howned
      · simp only [DobbyHost.setPhase, endTicket_ownedHooks]
        exact howned
    · exact howned
  | abort call success =>
    refine Or.inl ?_
    show (host.abort call success).ownedHooks target = _
    unfold DobbyHost.abort
    split
    · simp only [DobbyHost.setPhase, endTicket_ownedHooks]
      exact howned
    · exact howned
  | settle call =>
    refine Or.inl ?_
    show (host.settle call).1.ownedHooks target = _
    unfold DobbyHost.settle
    split
    next target' ticket' hcall =>
      dsimp only
      rw [setState_of_owned (h.preparing call _ hcall)]
      exact held_of_ne (hidle call _ hcall) howned
    next target' ticket' handle everPublished hcall =>
      split
      · exact held_of_ne (hidle call _ hcall) howned
      · dsimp only
        rw [setState_of_owned (h.preparing call _ hcall)]
        exact held_of_ne (hidle call _ hcall) howned
    · exact howned
  | unhook target' success =>
    by_cases heq : target' = target ∧ success = true
    · obtain ⟨rfl, rfl⟩ := heq
      exact Or.inr rfl
    · refine Or.inl ?_
      show (host.unhook target' success).ownedHooks target = _
      unfold DobbyHost.unhook
      split
      · split
        next hsuccess =>
          rw [endTicket_ownedHooks]
          exact held_of_ne (fun htarget => heq ⟨htarget.symm, hsuccess⟩) howned
        next => exact howned
      · exact howned

/-- Every step is as it should be, whether or not it abandons a ticket. -/
theorem Sound.lawful {action : HostAction} (henabled : host.Enabled action) :
    host.Lawful action := by
  refine ⟨fun target success ticket how _ hcall => h.releases hcall, ?_,
    fun target ticket howned => h.keeps howned⟩
  intro outcome hreturn
  cases action with
  | install call target request => exact h.install_returns henabled hreturn
  | commit call result => cases hreturn
  | abort call success => cases hreturn
  | settle call => exact h.settle_returns hreturn
  | unhook target success => cases hreturn

/-- An abandoned ticket is lost. -/
theorem Sound.abandoned {action : HostAction} (henabled : host.Enabled action)
    (habandons : host.Abandons action) : ¬ (host.step action).Kept := by
  cases action with
  | install call target request =>
    obtain ⟨hvalid, hfree, hsuccess, hnonzero, hdiscarded, haborted⟩ := habandons
    have hstep : host.step (.install call target request) =
        host.hand target request.prepared.handle := by
      show (host.install call target request).1 = _
      unfold DobbyHost.install
      dsimp only
      rw [if_neg (by rw [hvalid]; nofun), hfree]
      dsimp only
      rw [if_neg (not_or.mpr ⟨by rw [hsuccess]; nofun, hnonzero⟩), if_pos hdiscarded, haborted]
      rfl
    rw [hstep]
    intro hkept
    obtain ⟨how, hended⟩ | ⟨state, howned⟩ := hkept.accounted _ mem_cons_self
    · exact henabled.2 hsuccess (h.endedHanded _ hended)
    · cases hfree.symm.trans howned
  | commit call result => exact habandons.elim
  | abort call success => exact habandons.elim
  | settle call => exact habandons.elim
  | unhook target success => exact habandons.elim

end Actions

/-! ## Every interleaving -/

/-- In a run whose calls have numbers of their own, and in which Dobby hands out every ticket once,
every ticket is accounted for and every step is as it should be if and only if no step abandons a
ticket: that is, if and only if no abort fails of a hook that Dobby has prepared and the host cannot
keep. -/
theorem tickets_kept_iff (actions : List HostAction)
    (henabled : AlongSteps step Enabled {} actions) :
    Along step Kept {} actions ∧ AlongSteps step Lawful {} actions ↔
      AlongSteps step (fun host action => ¬ host.Abandons action) {} actions :=
  along_and_steps_iff (fun _ h => h.kept)
    (fun _ _ h hstep hkept => ⟨h.step hstep hkept, h.lawful hstep⟩)
    (fun _ _ h hstep habandons _ => h.abandoned hstep (not_not.mp habandons)) henabled Sound.init

/-- A hook is installed, and recovered after a commit that may have patched. -/
theorem tickets_kept_iff_recovered :
    AlongSteps step Enabled {} [
        .install 0 16 ⟨true, ⟨true, 7, true⟩, true, true⟩,
        .commit 0 ⟨false, 7, false, true, true⟩, .settle 0, .unhook 16 true] ∧
      (Along step Kept {} [
          .install 0 16 ⟨true, ⟨true, 7, true⟩, true, true⟩,
          .commit 0 ⟨false, 7, false, true, true⟩, .settle 0, .unhook 16 true] ∧
        AlongSteps step Lawful {} [
          .install 0 16 ⟨true, ⟨true, 7, true⟩, true, true⟩,
          .commit 0 ⟨false, 7, false, true, true⟩, .settle 0, .unhook 16 true] ↔
        AlongSteps step (fun host action => ¬ host.Abandons action) {} [
          .install 0 16 ⟨true, ⟨true, 7, true⟩, true, true⟩,
          .commit 0 ⟨false, 7, false, true, true⟩, .settle 0, .unhook 16 true]) := by
  have henabled : AlongSteps step Enabled {} [
      .install 0 16 ⟨true, ⟨true, 7, true⟩, true, true⟩,
      .commit 0 ⟨false, 7, false, true, true⟩, .settle 0, .unhook 16 true] := by
    refine alongSteps_cons.mpr ⟨⟨rfl, fun _ => not_mem_nil⟩, ?_⟩
    simp only [alongSteps_cons, alongSteps_nil, Enabled, and_true]
  exact ⟨henabled, tickets_kept_iff _ henabled⟩

/-- Dobby prepares a hook without an original, and cannot abort it: the ticket is neither aborted
nor in the map. -/
theorem tickets_not_kept :
    AlongSteps step Enabled {} [.install 0 16 ⟨true, ⟨true, 7, false⟩, false, true⟩] ∧
      ¬ Along step Kept {} [.install 0 16 ⟨true, ⟨true, 7, false⟩, false, true⟩] := by
  refine ⟨?_, fun halong => ?_⟩
  · exact alongSteps_cons.mpr ⟨⟨rfl, fun _ => not_mem_nil⟩, alongSteps_nil⟩
  · have hkept := halong _ (prefix_refl _)
    obtain ⟨how, hended⟩ | ⟨state, howned⟩ := hkept.accounted (16, 7) mem_cons_self
    · cases hended
    · cases howned

end DobbyHost

end DartPlant
