import DartPlant.Vm.AdapterCalls

/-! # Accounting of the VM adapter

Every counter of the adapter is what was granted less what was taken back, in any order of calls and
whatever the backend answers.  The counters are words, so this is for runs that grant nothing at the
maximum of its counter.

A scope may be left under a live heap observation that began inside it: nothing in
`dartplant_vm_leave_scope` looks at the observation.  That is the only disorder, and
`adapter_accounts` says exactly when it happens.
-/

namespace DartPlant
open Holdings Runs

/-! ## The ledger -/

/-- The fields agree with the log. -/
structure Ledger (held : VmHeld) (log : List VmDeed) : Prop where
  settled : Settled log
  isolate : holding .isolate log = held.isolateEntered.toNat
  scope : Holdings.Counts held.entered (holding .scope log)
  rootLease : Holdings.Counts held.leases (holding .rootLease log)
  transition : Holdings.Counts held.transitions (holding .transition log)
  observation : Holdings.Counts held.observations (holding .observation log)
  handle : Holdings.Counts held.handles (holding .handle log)
  single : holding .transition log ≤ 1 ∧ holding .observation log ≤ 1
  leased : held.transitions ≠ 0 → held.leases ≠ 0
  attached : held.attached = false → held.isolateEntered = false ∧ held.entered = 0 ∧
    held.leases = 0 ∧ held.transitions = 0 ∧ held.observations = 0 ∧ held.handles = 0

/-- The deed leaves its counter below its maximum. -/
def HasRoom (held : VmHeld) : Option VmDeed → Prop
  | some (.acquire _ .scope) => held.entered ≠ BitVec.allOnes 32
  | some (.acquire _ .rootLease) => held.leases ≠ BitVec.allOnes 64
  | some (.acquire _ .handle) => held.handles ≠ BitVec.allOnes 64
  | _ => True

instance (held : VmHeld) : (deed : Option VmDeed) → Decidable (HasRoom held deed)
  | some (.acquire _ .scope) => inferInstanceAs (Decidable (held.entered ≠ _))
  | some (.acquire _ .rootLease) => inferInstanceAs (Decidable (held.leases ≠ _))
  | some (.acquire _ .handle) => inferInstanceAs (Decidable (held.handles ≠ _))
  | some (.acquire _ .isolate) => .isTrue trivial
  | some (.acquire _ .transition) => .isTrue trivial
  | some (.acquire _ .observation) => .isTrue trivial
  | some (.release _ _) => .isTrue trivial
  | none => .isTrue trivial

section Ledger
variable {held after : VmHeld} {log : List VmDeed} {thread : ThreadId} {seizes : Prop}
  {deed : Option VmDeed}

theorem dropIdleOwner_cases (held : VmHeld) :
    held.dropIdleOwner = held ∨
      held.ownerIdle = true ∧ held.dropIdleOwner = { held with owner := none } := by
  unfold VmHeld.dropIdleOwner
  split
  next h => exact Or.inr ⟨h, rfl⟩
  · exact Or.inl rfl

/-- The ledger does not look at the owner. -/
theorem Ledger.owner (h : Ledger held log) (owner : Option ThreadId) :
    Ledger { held with owner } log := { h with }

theorem Ledger.dropIdleOwner (h : Ledger held log) : Ledger held.dropIdleOwner log := by
  rcases dropIdleOwner_cases held with heq | ⟨-, heq⟩
  · rw [heq]
    exact h
  · rw [heq]
    exact h.owner none

/-- A release takes one holder away. -/
theorem counts_release {w : ℕ} {counter : BitVec w} {resource : VmResource}
    (h : Holdings.Counts counter (holding resource log)) (hne : counter ≠ 0#w) :
    Holdings.Counts (counter - 1#w) (holding resource (.release thread resource :: log)) := by
  rw [holding_release_self]
  exact h.pred hne

/-- An effect keeps the ledger when it has room, and when a handle that is released is one that is
out. -/
theorem Ledger.effect (h : Ledger held log) (heffect : VmEffect thread seizes held after deed)
    (hroom : HasRoom held deed) (hhandle : deed = some (.release thread .handle) →
      held.handles ≠ 0) : Ledger after (deed.toList ++ log) := by
  cases heffect with
  | idle => exact h
  | hooks hookRefs => exact { h with }
  | claimed hopen hattached => exact h.owner _
  | seized hseizes hattached hentered hobservations => exact h.owner _
  | attach hattached hentered => exact { h with attached := fun h => by cases h }
  | detach hattached hquiescent =>
    obtain ⟨hisolate, hentered, hleases, htransitions, hobservations, hhandles, -⟩ := hquiescent
    exact { h with
      attached := fun _ => ⟨hisolate, hentered, hleases, htransitions, hobservations, hhandles⟩ }
  | enterIsolate hattached hopen hentered hisolate hobservations =>
    have hcount := h.isolate
    rw [hisolate] at hcount
    exact { h with
      isolate := holding_acquire_self.trans (congrArg (· + 1) hcount)
      attached := fun hno => absurd hattached (Bool.eq_false_iff.mp hno) }
  | leaveIsolate hisolate hentered howner =>
    have hcount := h.isolate
    rw [hisolate] at hcount
    have hheld : holding .isolate log ≠ 0 := by
      rw [hcount]
      exact Nat.one_ne_zero
    exact { h with
      settled := ⟨holders_ne_nil hheld, h.settled⟩
      isolate := holding_release_self.trans (congrArg (· - 1) hcount)
      attached := fun hno => ⟨rfl, (h.attached hno).2⟩ }
  | enterScope hseizes hattached hobservations howner =>
    exact { h with
      scope := h.scope.succ hroom
      attached := fun hno => absurd hattached (Bool.eq_false_iff.mp hno) }
  | leaveScope hattached hentered howner =>
    have hleft : Ledger { held with entered := held.entered - 1 }
        (.release thread .scope :: log) := { h with
      settled := ⟨holders_ne_nil (h.scope.ne_zero hentered), h.settled⟩
      scope := counts_release h.scope hentered
      attached := fun hno => absurd hattached (Bool.eq_false_iff.mp hno) }
    exact hleft.dropIdleOwner
  | pin hattached hopen htransitions hentered hobservations =>
    exact { h with
      rootLease := h.rootLease.succ hroom
      leased := fun hne => absurd htransitions hne
      attached := fun hno => absurd hattached (Bool.eq_false_iff.mp hno) }
  | unpin hattached hopen hleases htransitions hentered hobservations =>
    exact { h with
      settled := ⟨holders_ne_nil (h.rootLease.ne_zero hleases), h.settled⟩
      rootLease := counts_release h.rootLease hleases
      leased := fun hne => absurd htransitions hne
      attached := fun hno => absurd hattached (Bool.eq_false_iff.mp hno) }
  | enterNative hattached hopen hleases htransitions hentered hobservations =>
    have hnone := h.transition.eq_zero_iff.mp htransitions
    have hmax : held.transitions ≠ BitVec.allOnes 32 := by
      rw [htransitions]
      decide
    exact { h with
      transition := h.transition.succ hmax
      single := ⟨(holding_acquire_self.trans (congrArg (· + 1) hnone)).le, h.single.2⟩
      leased := fun _ => hleases
      attached := fun hno => absurd hattached (Bool.eq_false_iff.mp hno) }
  | leaveNative howner hleases htransitions hentered hobservations =>
    have hsingle : holding .transition (.release thread .transition :: log) ≤ 1 := by
      rw [holding_release_self]
      exact (Nat.sub_le _ 1).trans h.single.1
    exact { h with
      settled := ⟨holders_ne_nil (h.transition.ne_zero htransitions), h.settled⟩
      transition := counts_release h.transition htransitions
      single := ⟨hsingle, h.single.2⟩
      leased := fun _ => hleases
      attached := fun hno => absurd (h.attached hno).2.2.2.1 htransitions }
  | observe hattached hopen hisolate hstate hobservations =>
    have hnone := h.observation.eq_zero_iff.mp hobservations
    have hone : holding .observation (.acquire thread .observation :: log) = 1 :=
      holding_acquire_self.trans (congrArg (· + 1) hnone)
    exact { h with
      observation := hone.symm
      single := ⟨h.single.1, hone.le⟩
      attached := fun hno => absurd hattached (Bool.eq_false_iff.mp hno) }
  | unobserve hobservations hobserver =>
    have hheld : held.observations ≠ 0 := by
      rw [hobservations]
      decide
    have hone := h.observation
    rw [hobservations] at hone
    have hnone : holding .observation (.release thread .observation :: log) = 0 := by
      rw [holding_release_self, ← hone]
      rfl
    have hended : Ledger { held with observations := 0, observer := none }
        (.release thread .observation :: log) := { h with
      settled := ⟨holders_ne_nil (h.observation.ne_zero hheld), h.settled⟩
      observation := hnone.symm
      single := ⟨h.single.1, hnone.le.trans (Nat.zero_le 1)⟩
      attached := fun hno => absurd (h.attached hno).2.2.2.2.1 hheld }
    exact hended.dropIdleOwner
  | retain hattached hentered howner =>
    exact { h with
      handle := h.handle.succ hroom
      attached := fun hno => absurd hattached (Bool.eq_false_iff.mp hno) }
  | release hattached =>
    have hne := hhandle rfl
    rw [if_pos hne]
    exact { h with
      settled := ⟨holders_ne_nil (h.handle.ne_zero hne), h.settled⟩
      handle := counts_release h.handle hne
      attached := fun hno => absurd hattached (Bool.eq_false_iff.mp hno) }

end Ledger

/-- The fields, the log and the table of handles agree. -/
structure WorldLedger (world : VmWorld) : Prop where
  ledger : Ledger world.adapter.held world.log
  table : unreleased world.handles = holding .handle world.log

/-- A call that grants something finds its counter below the maximum. -/
def RoomFor (world : VmWorld) (action : ThreadId × VmCall) : Prop :=
  HasRoom world.adapter.held (action.2.deed action.1)

instance (world : VmWorld) (action : ThreadId × VmCall) : Decidable (RoomFor world action) :=
  inferInstanceAs (Decidable (HasRoom _ _))

section Step
variable {profiles : List RuntimeProfileRecord} {world after : VmWorld} {thread : ThreadId}
  {seizes : Prop} {deed : Option VmDeed} {action : ThreadId × VmCall}

theorem WorldLedger.moves (h : WorldLedger world) (hmoves : VmMoves thread seizes deed world after)
    (hroom : HasRoom world.adapter.held deed) : WorldLedger after := by
  have hhandles := hmoves.handles
  have hledger := h.ledger.effect hmoves.effect hroom (by
    rintro rfl
    have hunreleased : unreleased world.handles = unreleased after.handles + 1 := hhandles
    intro hzero
    have hnone := h.ledger.handle.eq_zero_iff.mp hzero
    rw [← h.table] at hnone
    omega)
  rw [← hmoves.log] at hledger
  refine ⟨hledger, ?_⟩
  have htable := h.table
  rw [hmoves.log]
  unfold HandlesMove at hhandles
  split at hhandles
  next => exact hhandles.trans (congrArg (· + 1) htable)
  next =>
    show _ = holding .handle (.release _ .handle :: world.log)
    rw [holding_release_self, ← htable]
    omega
  next hacquire hrelease =>
    rw [hhandles, htable]
    cases deed with
    | none => rfl
    | some deed =>
      cases deed with
      | acquire agent resource =>
        cases resource with
        | handle => exact absurd rfl (hacquire agent)
        | _ => rfl
      | release agent resource =>
        cases resource with
        | handle => exact absurd rfl (hrelease agent)
        | _ => rfl

theorem WorldLedger.step (h : WorldLedger world) (hroom : RoomFor world action) :
    WorldLedger (vmStep profiles world action) := by
  obtain ⟨deed, hmoves, hdeed⟩ := perform_moves profiles world action.1 action.2
  refine h.moves hmoves ?_
  rcases hdeed with rfl | rfl
  · trivial
  · exact hroom

end Step

/-! ## Accounting -/

/-- Nothing the adapter granted is still out. -/
def NothingOutstanding (world : VmWorld) : Prop :=
  (∀ resource, holders resource world.log = []) ∧ unreleased world.handles = 0 ∧
    world.adapter.hookRefs = 0

/-- The counters are grants less returns, and the adapter can be given up only when nothing is
out. -/
structure Accounted (world : VmWorld) : Prop where
  handles : world.adapter.liveHandles.toNat = unreleased world.handles
  retained : world.adapter.liveHandles.toNat + released .handle world.log =
    acquired .handle world.log
  pinned : world.adapter.generatedRootLeases.toNat + released .rootLease world.log =
    acquired .rootLease world.log
  transitions : world.adapter.generatedNativeTransitions.toNat + released .transition world.log =
    acquired .transition world.log
  oneTransition : world.adapter.generatedNativeTransitions.toNat ≤ 1
  scopes : world.adapter.entered.toNat + released .scope world.log = acquired .scope world.log
  leased : world.adapter.generatedNativeTransitions ≠ 0 → world.adapter.generatedRootLeases ≠ 0
  quiescent : world.adapter.checkQuiescent = .ok () → NothingOutstanding world
  destroyed : world.adapter.destroy = .ok () → NothingOutstanding world
  detached : ∀ isolate, (world.adapter.detachIsolate isolate).2 = .ok () → NothingOutstanding world

theorem WorldLedger.nothingOutstanding {world : VmWorld} (h : WorldLedger world)
    (hquiescent : world.adapter.held.quiescent) : NothingOutstanding world := by
  obtain ⟨hisolate, hentered, hleases, htransitions, hobservations, hhandles, hhooks⟩ := hquiescent
  refine ⟨fun resource => List.length_eq_zero_iff.mp ?_,
    h.table.trans (h.ledger.handle.eq_zero_iff.mp hhandles), hhooks⟩
  cases resource with
  | isolate => exact h.ledger.isolate.trans (congrArg Bool.toNat hisolate)
  | scope => exact h.ledger.scope.eq_zero_iff.mp hentered
  | rootLease => exact h.ledger.rootLease.eq_zero_iff.mp hleases
  | transition => exact h.ledger.transition.eq_zero_iff.mp htransitions
  | observation => exact h.ledger.observation.eq_zero_iff.mp hobservations
  | handle => exact h.ledger.handle.eq_zero_iff.mp hhandles

theorem WorldLedger.accounted {world : VmWorld} (h : WorldLedger world) : Accounted world where
  handles := h.ledger.handle.trans h.table.symm
  retained := by
    rw [show world.adapter.liveHandles.toNat = _ from h.ledger.handle]
    exact holding_add_released h.ledger.settled _
  pinned := by
    rw [show world.adapter.generatedRootLeases.toNat = _ from h.ledger.rootLease]
    exact holding_add_released h.ledger.settled _
  transitions := by
    rw [show world.adapter.generatedNativeTransitions.toNat = _ from h.ledger.transition]
    exact holding_add_released h.ledger.settled _
  oneTransition := (show world.adapter.generatedNativeTransitions.toNat = _ from
    h.ledger.transition).trans_le h.ledger.single.1
  scopes := by
    rw [show world.adapter.entered.toNat = _ from h.ledger.scope]
    exact holding_add_released h.ledger.settled _
  leased := h.ledger.leased
  quiescent := by
    intro hok
    unfold DartPlantVmAdapter.checkQuiescent at hok
    split at hok
    · cases hok
    next hidle =>
      simp only [not_or, not_not, ne_eq, Bool.not_eq_true] at hidle
      obtain ⟨hhooks, hleases, htransitions, hentered, hisolate, hhandles, hobservations⟩ := hidle
      exact h.nothingOutstanding
        ⟨hisolate, hentered, hleases, htransitions, hobservations, hhandles, hhooks⟩
  destroyed := by
    intro hok
    unfold DartPlantVmAdapter.destroy at hok
    split at hok
    · cases hok
    next hidle =>
      simp only [not_or, not_not, ne_eq, Bool.not_eq_true] at hidle
      obtain ⟨-, hentered, hisolate, hhandles, hhooks, hleases, htransitions, hobservations⟩ :=
        hidle
      exact h.nothingOutstanding
        ⟨hisolate, hentered, hleases, htransitions, hobservations, hhandles, hhooks⟩
  detached := by
    intro isolate hok
    unfold DartPlantVmAdapter.detachIsolate at hok
    split at hok
    · cases hok
    split at hok
    · cases hok
    next hidle =>
      simp only [not_or, not_not, ne_eq, Bool.not_eq_true] at hidle
      obtain ⟨hentered, hisolate, hhandles, hhooks, hleases, htransitions, hobservations⟩ := hidle
      exact h.nothingOutstanding
        ⟨hisolate, hentered, hleases, htransitions, hobservations, hhandles, hhooks⟩

/-! ## Order of the leaves -/

/-- No root lease is unpinned under an active transition, and no scope is left under an open
observation. -/
structure LeavesInOrder (profiles : List RuntimeProfileRecord) (world : VmWorld)
    (action : ThreadId × VmCall) : Prop where
  unpinned : (vmStep profiles world action).log = .release action.1 .rootLease :: world.log →
    world.adapter.generatedNativeTransitions = 0
  scopeLeft : (vmStep profiles world action).log = .release action.1 .scope :: world.log →
    world.adapter.liveHeapObservations = 0

/-- A `dartplant_vm_leave_scope` that gets through finds no open observation. -/
def ScopeLeftUnobserved (world : VmWorld) (action : ThreadId × VmCall) : Prop :=
  action.2 = .leaveScope .ok → world.adapter.checkEntered action.1 = none →
    world.adapter.liveHeapObservations = 0

instance (world : VmWorld) (action : ThreadId × VmCall) :
    Decidable (ScopeLeftUnobserved world action) :=
  inferInstanceAs (Decidable (_ → _ → _))

section Order
variable {profiles : List RuntimeProfileRecord} {world : VmWorld} {thread : ThreadId}
  {call : VmCall} {resource : VmResource}

/-- What the log of a step says about its call. -/
theorem released_moves
    (hlog : (vmStep profiles world (thread, call)).log = .release thread resource :: world.log) :
    VmEffect thread (call.seizes world.adapter) world.adapter.held
        (vmStep profiles world (thread, call)).adapter.held
      (some (.release thread resource)) ∧ call.deed thread = some (.release thread resource) := by
  obtain ⟨done, hmoves, hdone⟩ := perform_moves profiles world thread call
  have hdeed : done.toList = [.release thread resource] :=
    List.append_cancel_right (hmoves.log.symm.trans hlog)
  have hsome : done = some (.release thread resource) := by
    cases done with
    | none => cases hdeed
    | some deed => exact congrArg some (List.singleton_inj.mp hdeed)
  rw [hsome] at hmoves hdone
  refine ⟨hmoves.effect, ?_⟩
  rcases hdone with hnone | hdone
  · cases hnone
  · exact hdone.symm

/-- A root lease is unpinned only after the transition that uses it is over. -/
theorem unpinned_after_transition
    (hlog : (vmStep profiles world (thread, call)).log = .release thread .rootLease :: world.log) :
    world.adapter.generatedNativeTransitions = 0 := by
  obtain ⟨heffect, -⟩ := released_moves hlog
  generalize (vmStep profiles world (thread, call)).adapter.held = after at heffect
  show world.adapter.held.transitions = 0
  cases heffect with
  | unpin hattached hopen hleases htransitions hentered hobservations => exact htransitions

/-- `dartplant_vm_leave_scope` gets through exactly when the thread is in a scope and the backend
leaves it. -/
theorem scope_left_iff {status : DartPlantStatus} :
    (vmStep profiles world (thread, .leaveScope status)).log =
        .release thread .scope :: world.log ↔
      status = .ok ∧ world.adapter.checkEntered thread = none := by
  have hlog : (vmStep profiles world (thread, .leaveScope status)).log =
      if status = .ok ∧ world.adapter.checkEntered thread = none then
        .release thread .scope :: world.log else world.log := by
    show (world.settle _ (world.adapter.leaveScope thread status)).1.log = _
    unfold DartPlantVmAdapter.leaveScope
    split
    next failure hchecked =>
      refine (if_neg fun h => ?_).symm
      rw [hchecked] at h
      cases h.2
    next hchecked =>
      split
      next hfailed => exact (if_neg fun h => hfailed h.1).symm
      next hok => exact (if_pos ⟨not_not.mp hok, hchecked⟩).symm
  rw [hlog]
  split
  next h => exact ⟨fun _ => h, fun _ => rfl⟩
  next h => exact ⟨fun heq => absurd heq.symm (List.cons_ne_self _ _), fun hcond => absurd hcond h⟩

/-- The leaves of a step are in order exactly when it leaves no observed scope. -/
theorem leavesInOrder_iff {action : ThreadId × VmCall} :
    LeavesInOrder profiles world action ↔ ScopeLeftUnobserved world action := by
  obtain ⟨thread, call⟩ := action
  constructor
  · intro horder hcall hchecked
    obtain rfl : call = .leaveScope .ok := hcall
    exact horder.scopeLeft (scope_left_iff.mpr ⟨rfl, hchecked⟩)
  · intro hunobserved
    refine ⟨unpinned_after_transition, fun hlog => ?_⟩
    obtain ⟨-, hdeed⟩ := released_moves hlog
    cases call with
    | leaveScope status =>
      obtain ⟨rfl, hchecked⟩ := scope_left_iff.mp hlog
      exact hunobserved rfl hchecked
    | _ => cases hdeed

end Order

/-! ## Every run -/

/-- A new adapter has granted nothing. -/
theorem worldLedger_create {callbacks : DartPlantVmAdapterCallbacks} {adapter : DartPlantVmAdapter}
    (hcreate : vmAdapterCreate callbacks = .ok adapter) : WorldLedger { adapter } := by
  unfold vmAdapterCreate at hcreate
  split at hcreate
  · cases hcreate
  · obtain rfl := VmOutcome.ok.inj hcreate
    refine ⟨?_, rfl⟩
    exact {
      settled := trivial
      isolate := rfl
      scope := Holdings.Counts.zero 32
      rootLease := Holdings.Counts.zero 64
      transition := Holdings.Counts.zero 32
      observation := Holdings.Counts.zero 32
      handle := Holdings.Counts.zero 64
      single := ⟨Nat.zero_le 1, Nat.zero_le 1⟩
      leased := fun hne => absurd rfl hne
      attached := fun _ => ⟨rfl, rfl, rfl, rfl, rfl, rfl⟩ }

/-- The adapter accounts for everything it granted, in every run that overflows no counter; and
its leaves are in order exactly when no scope is left under an open observation. -/
theorem adapter_accounts (profiles : List RuntimeProfileRecord)
    {callbacks : DartPlantVmAdapterCallbacks} {adapter : DartPlantVmAdapter}
    (hcreate : vmAdapterCreate callbacks = .ok adapter) (actions : List (ThreadId × VmCall))
    (hroom : AlongSteps (vmStep profiles) RoomFor { adapter } actions) :
    Along (vmStep profiles) Accounted { adapter } actions ∧
        AlongSteps (vmStep profiles) (LeavesInOrder profiles) { adapter } actions ↔
      AlongSteps (vmStep profiles) ScopeLeftUnobserved { adapter } actions := by
  have haccounted : Along (vmStep profiles) Accounted { adapter } actions := by
    intro pre hpre
    have hledger : Along (vmStep profiles) WorldLedger { adapter } actions :=
      along_of_invariant (fun _ _ h hroom => WorldLedger.step h hroom) hroom
        (worldLedger_create hcreate)
    exact (hledger pre hpre).accounted
  constructor
  · rintro ⟨-, horder⟩ pre action hpre
    exact leavesInOrder_iff.mp (horder pre action hpre)
  · intro hunobserved
    exact ⟨haccounted, fun pre action hpre =>
      leavesInOrder_iff.mpr (hunobserved pre action hpre)⟩

/-- A generated callback that begins an observation inside its scope. -/
def observedCallback : List (ThreadId × VmCall) :=
  [(1, .attachIsolate ⟨1, 1, 1⟩), (1, .pinGeneratedRoots false 8 1 .ok 16),
    (1, .enterGeneratedToNative false (some ⟨48⟩) 16 .ok), (1, .enterScope .ok),
    (1, .beginLiveHeapObservation 32 .ok 24)]

/-- The callback ends its observation and goes back to generated code. -/
theorem observed_callback_accounted :
    Along (vmStep []) Accounted { adapter := { callbacks := completeCallbacks } }
        (observedCallback ++ [(1, .endLiveHeapObservation 24 .ok), (1, .leaveScope .ok)]) ∧
      AlongSteps (vmStep []) (LeavesInOrder []) { adapter := { callbacks := completeCallbacks } }
        (observedCallback ++ [(1, .endLiveHeapObservation 24 .ok), (1, .leaveScope .ok)]) := by
  have hcreate : vmAdapterCreate completeCallbacks = .ok { callbacks := completeCallbacks } := rfl
  refine (adapter_accounts [] hcreate _ ?_).mpr ?_
  · simp only [observedCallback, List.cons_append, List.nil_append, alongSteps_cons,
      alongSteps_nil, and_true]
    decide
  · simp only [observedCallback, List.cons_append, List.nil_append, alongSteps_cons,
      alongSteps_nil, and_true]
    decide

/-- The same callback leaves its scope with the observation open. -/
theorem observed_scope_left :
    ¬ AlongSteps (vmStep []) (LeavesInOrder []) { adapter := { callbacks := completeCallbacks } }
      (observedCallback ++ [(1, .leaveScope .ok)]) := by
  intro h
  have hobservations := (h observedCallback (1, .leaveScope .ok) (List.prefix_refl _)).scopeLeft
    (by decide)
  revert hobservations
  decide

end DartPlant
