import DartPlant.Vm.AdapterLedger

/-! # The owner thread of the VM adapter

What the adapter hands out for one thread is held by its owner: every other thread is refused and
changes nothing, and the owner is never refused as a foreign thread when it gives back what it
holds.

Two operations break this.  `dartplant_vm_enter_scope` looks at the owner only inside another scope
and otherwise overwrites it, whatever the old owner holds; and `dartplant_vm_leave_isolate` resets
the owner without a look at its root leases and its transition.  `adapter_owned` is the property
exactly for the runs without these two steps.
-/

namespace DartPlant
open Holdings Runs DartPlantVmAdapter DartPlantStatus

/-- The adapter holds this for one thread.  An object handle belongs to no thread. -/
def VmHeld.holds (held : VmHeld) : VmResource → Prop
  | .isolate => held.isolateEntered = true
  | .scope => held.entered ≠ 0
  | .rootLease => held.leases ≠ 0
  | .transition => held.transitions ≠ 0
  | .observation => held.observations ≠ 0
  | .handle => False

/-- The calls that only the owner can make while something is held. -/
def VmCall.ownerOnly : VmCall → Bool
  | .enterIsolate _ => true
  | .leaveIsolate _ => true
  | .enterScope _ => true
  | .leaveScope _ => true
  | .pinGeneratedRoots .. => true
  | .generatedRootGet .. => true
  | .generatedRootSet .. => true
  | .unpinGeneratedRoots .. => true
  | .enterGeneratedToNative .. => true
  | .leaveNativeToGenerated .. => true
  | .beginLiveHeapObservation .. => true
  | .endLiveHeapObservation .. => true
  | _ => false

/-- The owner is whoever acquired what is held, and can give it back. -/
structure OwnedByAcquirer (profiles : List RuntimeProfileRecord) (world : VmWorld) : Prop where
  acquirer : ∀ resource, world.adapter.held.holds resource → holders resource world.log ≠ [] ∧
    ∀ thread ∈ holders resource world.log, world.adapter.ownerThread = some thread
  givenBack : ∀ resource thread call failure, world.adapter.held.holds resource →
    thread ∈ holders resource world.log → call.deed thread = some (.release thread resource) →
    (world.perform profiles thread call).2 = .refused failure → failure.status ≠ .vmThreadMismatch

/-- While something is held, a thread that is not the owner is refused and changes nothing. -/
def ForeignRefused (profiles : List RuntimeProfileRecord) (world : VmWorld)
    (action : ThreadId × VmCall) : Prop :=
  action.2.ownerOnly = true → (∃ resource, world.adapter.held.holds resource) →
    world.adapter.ownerThread ≠ some action.1 →
    ∃ failure, world.perform profiles action.1 action.2 = (world, .refused failure)

/-- A first scope is entered by the owner of what is held, and the isolate is left with no root
lease and no transition. -/
def KeepsOwner (world : VmWorld) (action : ThreadId × VmCall) : Prop :=
  match action.2 with
  | .enterScope _ => world.adapter.admitsScope → world.adapter.entered = 0 →
    (∃ resource, world.adapter.held.holds resource) → world.adapter.ownerThread = some action.1
  | .leaveIsolate status => status = .ok → world.adapter.isolateEntered = true →
    world.adapter.entered = 0 → world.adapter.ownerThread = some action.1 →
    world.adapter.generatedRootLeases = 0 ∧ world.adapter.generatedNativeTransitions = 0
  | _ => True

/-! ## Foreign threads -/

/-- The operation is refused and changes nothing. -/
def Refuses {α : Type} (adapter : DartPlantVmAdapter) (step : Step α) : Prop :=
  ∃ failure, step = (adapter, .refused failure)

section Foreign
variable {adapter : DartPlantVmAdapter} {thread other : ThreadId} {status : DartPlantStatus}

theorem refuses_refuse {α : Type} {refusal : DartPlantStatus} {message : String} :
    Refuses adapter (adapter.refuse refusal message : Step α) := ⟨_, rfl⟩

variable (howner : adapter.ownerThread = some other) (hne : other ≠ thread)
include howner hne

/-- Another thread is the owner. -/
theorem foreign_owner :
    adapter.ownerThread ≠ some thread := fun h => hne (Option.some.inj (howner.symm.trans h))

theorem owned_foreign {α : Type} {next : DartPlantVmAdapter → Step α} :
    Refuses adapter (andThen (adapter.checkAttachedOwner thread) next) := by
  unfold checkAttachedOwner
  split
  · exact ⟨_, rfl⟩
  · rw [if_pos ⟨by rw [howner]; exact Option.some_ne_none _, foreign_owner howner hne⟩]
    exact ⟨_, rfl⟩

theorem checkEntered_foreign : adapter.checkEntered thread ≠ none := fun h =>
  foreign_owner howner hne (checkEntered_none h).2.2

theorem enterIsolate_foreign : Refuses adapter (adapter.enterIsolate thread status) := by
  unfold enterIsolate
  split
  · exact refuses_refuse
  split
  · exact refuses_refuse
  split
  · exact refuses_refuse
  · rw [if_pos ⟨by rw [howner]; exact Option.some_ne_none _, foreign_owner howner hne⟩]
    exact refuses_refuse

theorem leaveIsolate_foreign : Refuses adapter (adapter.leaveIsolate thread status) := by
  unfold leaveIsolate
  rw [if_pos (Or.inr (Or.inr (foreign_owner howner hne)))]
  exact refuses_refuse

theorem enterScope_foreign (hfirst : adapter.admitsScope → adapter.entered ≠ 0) :
    Refuses adapter (adapter.enterScope thread status) := by
  unfold enterScope
  split
  · exact refuses_refuse
  next hadmitted =>
    split
    · exact refuses_refuse
    next hattached =>
      split
      · exact refuses_refuse
      next hobservations =>
        have hentered := hfirst
          ⟨hadmitted, Bool.eq_true_of_not_eq_false hattached, not_not.mp hobservations⟩
        rw [if_pos ⟨hentered, foreign_owner howner hne⟩]
        exact refuses_refuse

theorem leaveScope_foreign : Refuses adapter (adapter.leaveScope thread status) := by
  unfold leaveScope
  split
  · exact ⟨_, rfl⟩
  next hchecked => exact absurd hchecked (checkEntered_foreign howner hne)

theorem pinGeneratedRoots_foreign {contended : Bool} {rawValues lease : Address}
    {valueCount : BitVec 32} : Refuses adapter
      (adapter.pinGeneratedRoots contended thread rawValues valueCount status lease) := by
  unfold pinGeneratedRoots
  split
  · exact refuses_refuse
  split
  · exact refuses_refuse
  split
  · exact refuses_refuse
  · exact owned_foreign howner hne

theorem generatedRootGet_foreign {rootLease : Address} {raw : BitVec 64} :
    Refuses adapter (adapter.generatedRootGet thread rootLease status raw) := by
  unfold DartPlantVmAdapter.generatedRootGet
  split
  · exact refuses_refuse
  split
  · exact refuses_refuse
  split
  · exact ⟨_, rfl⟩
  next hchecked => exact absurd hchecked (checkEntered_foreign howner hne)

theorem generatedRootSet_foreign {rootLease : Address} :
    Refuses adapter (adapter.generatedRootSet thread rootLease status) := by
  unfold DartPlantVmAdapter.generatedRootSet
  split
  · exact refuses_refuse
  split
  · exact refuses_refuse
  split
  · exact ⟨_, rfl⟩
  next hchecked => exact absurd hchecked (checkEntered_foreign howner hne)

theorem unpinGeneratedRoots_foreign {contended : Bool} {rootLease outRawValues : Address}
    {valueCount : BitVec 32} : Refuses adapter
      (adapter.unpinGeneratedRoots contended thread rootLease outRawValues valueCount status) := by
  unfold unpinGeneratedRoots
  split
  · exact refuses_refuse
  split
  · exact refuses_refuse
  split
  · exact refuses_refuse
  · exact owned_foreign howner hne

theorem enterGeneratedToNative_foreign {contended : Bool}
    {frame : Option GeneratedTransitionFrame} {rootLease : Address} :
    Refuses adapter (adapter.enterGeneratedToNative contended thread frame rootLease status) := by
  unfold enterGeneratedToNative
  split
  · exact refuses_refuse
  split
  · exact refuses_refuse
  split
  · exact refuses_refuse
  · exact owned_foreign howner hne

theorem leaveNativeToGenerated_foreign
    {frame : Option GeneratedTransitionFrame} {rootLease : Address} :
    Refuses adapter (adapter.leaveNativeToGenerated thread frame rootLease status) := by
  unfold leaveNativeToGenerated
  split
  · exact refuses_refuse
  split
  · exact refuses_refuse
  split
  · exact refuses_refuse
  · rw [if_pos (foreign_owner howner hne)]
    exact refuses_refuse

theorem beginLiveHeapObservation_foreign {vmThread : BitVec 64} {lease : Address} :
    Refuses adapter (adapter.beginLiveHeapObservation thread vmThread status lease) := by
  unfold beginLiveHeapObservation
  split
  · exact refuses_refuse
  split
  · exact refuses_refuse
  split
  · exact refuses_refuse
  split
  · exact refuses_refuse
  · rw [if_pos ⟨by rw [howner]; exact Option.some_ne_none _, foreign_owner howner hne⟩]
    exact refuses_refuse

/-- The end of an observation looks at its observer, which is the owner. -/
theorem endLiveHeapObservation_foreign {lease : Address}
    (hobserver : adapter.liveHeapObservations ≠ 0 →
      adapter.liveHeapObservationThread = adapter.ownerThread) :
    Refuses adapter (adapter.endLiveHeapObservation thread lease status) := by
  unfold endLiveHeapObservation
  split
  · exact refuses_refuse
  · have hbusy : adapter.liveHeapObservations ≠ 1 ∨
        adapter.liveHeapObservationThread ≠ some thread ∨
        adapter.liveHeapObservationLease ≠ lease ∨
        adapter.callbacks.liveHeapObservationAvailable = false := by
      by_cases hone : adapter.liveHeapObservations = 1
      · have hheld : adapter.liveHeapObservations ≠ 0 := by
          rw [hone]
          decide
        refine Or.inr (Or.inl ?_)
        rw [hobserver hheld]
        exact foreign_owner howner hne
      · exact Or.inl hone
    rw [if_pos hbusy]
    exact refuses_refuse

end Foreign

/-! ## The owner -/

/-- The operation is not refused for its thread. -/
def Native {α : Type} (step : Step α) : Prop :=
  ∀ failure, step.2 = .refused failure → failure.status ≠ .vmThreadMismatch

section Native
variable {adapter : DartPlantVmAdapter} {thread : ThreadId} {status : DartPlantStatus}

theorem native_refuse {α : Type} {refusal : DartPlantStatus} {message : String}
    (hne : refusal ≠ .vmThreadMismatch) :
    Native (adapter.refuse refusal message : Step α) := by
  intro failure h
  obtain rfl := VmOutcome.refused.inj h
  exact hne

theorem native_backend {α : Type} :
    Native ((adapter, .backend status) : Step α) := by
  intro failure h
  cases h

theorem native_ok {α : Type} {value : α} : Native (adapter, .ok value) := by
  intro failure h
  cases h

theorem leaveIsolate_native (howner : adapter.ownerThread = some thread)
    (hisolate : adapter.isolateEntered = true) :
    Native (adapter.leaveIsolate thread status) := by
  unfold leaveIsolate
  split
  next hbusy =>
    have hentered : adapter.entered ≠ 0 := by
      rcases hbusy with hleft | hentered | hforeign
      · exact absurd hisolate (Bool.eq_false_iff.mp hleft)
      · exact hentered
      · exact absurd howner hforeign
    rw [if_pos hentered]
    exact native_refuse noConfusion
  split
  · exact native_backend
  · exact native_ok

theorem leaveScope_native (howner : adapter.ownerThread = some thread) :
    Native (adapter.leaveScope thread status) := by
  unfold leaveScope
  split
  next failure hchecked =>
    intro other h
    obtain rfl := VmOutcome.refused.inj h
    unfold checkEntered at hchecked
    split at hchecked
    · cases hchecked
      exact noConfusion
    split at hchecked
    · cases hchecked
      exact noConfusion
    split at hchecked
    next hforeign => exact absurd howner hforeign
    · cases hchecked
  split
  · exact native_backend
  · exact native_ok

theorem unpinGeneratedRoots_native {contended : Bool} {rootLease outRawValues : Address}
    {valueCount : BitVec 32} (howner : adapter.ownerThread = some thread) :
    Native
      (adapter.unpinGeneratedRoots contended thread rootLease outRawValues valueCount status) := by
  unfold unpinGeneratedRoots checkAttachedOwner
  split
  · exact native_refuse noConfusion
  split
  · exact native_refuse noConfusion
  split
  · exact native_refuse noConfusion
  split
  · exact native_refuse noConfusion
  split
  next hforeign => exact absurd howner hforeign.2
  dsimp only [andThen]
  split
  · exact native_refuse noConfusion
  split
  · exact native_backend
  · exact native_ok

theorem leaveNativeToGenerated_native
    {frame : Option GeneratedTransitionFrame} {rootLease : Address}
    (howner : adapter.ownerThread = some thread) :
    Native (adapter.leaveNativeToGenerated thread frame rootLease status) := by
  unfold leaveNativeToGenerated
  split
  · exact native_refuse noConfusion
  split
  · exact native_refuse noConfusion
  split
  · exact native_refuse noConfusion
  split
  next hforeign => exact absurd howner hforeign
  split
  · exact native_refuse noConfusion
  split
  · exact native_backend
  · exact native_ok

theorem endLiveHeapObservation_native {lease : Address} :
    Native (adapter.endLiveHeapObservation thread lease status) := by
  unfold endLiveHeapObservation
  split
  · exact native_refuse noConfusion
  split
  · exact native_refuse noConfusion
  split
  · exact native_backend
  · exact native_ok

end Native

/-! ## Holders own the adapter -/

/-- Whoever holds something for its thread is the owner. -/
def HoldersOwn (owner : Option ThreadId) (log : List VmDeed) : Prop :=
  ∀ resource thread, resource ≠ .handle → thread ∈ holders resource log → owner = some thread

structure HeldByOwner (held : VmHeld) (log : List VmDeed) : Prop where
  owner : HoldersOwn held.owner log
  observer : held.observations ≠ 0 → held.observer = held.owner
  observing : held.observations ≠ 0 →
    held.isolateEntered = false ∧ (held.transitions ≠ 0 ∨ held.entered = 0)

section Holders
variable {held after : VmHeld} {log : List VmDeed} {thread agent : ThreadId} {seizes : Prop}
  {deed : Option VmDeed} {owner : Option ThreadId} {resource : VmResource}

theorem HoldersOwn.acquire (h : HoldersOwn (some thread) log) :
    HoldersOwn (some thread) (.acquire thread resource :: log) := by
  intro r t hr ht
  rcases mem_holders_acquire ht with ⟨rfl, -⟩ | ht
  · rfl
  · exact h r t hr ht

theorem HoldersOwn.release (h : HoldersOwn owner log) :
    HoldersOwn owner (.release agent resource :: log) := fun r t hr ht =>
  h r t hr (mem_holders_release ht)

/-- A handle is nobody's. -/
theorem HoldersOwn.retain (h : HoldersOwn owner log) :
    HoldersOwn owner (.acquire agent .handle :: log) := by
  intro r t hr ht
  rcases mem_holders_acquire ht with ⟨-, rfl⟩ | ht
  · exact absurd rfl hr
  · exact h r t hr ht

/-- The adapter holds what the log says is held. -/
theorem Ledger.holds_iff (h : Ledger held log) (hresource : resource ≠ .handle) :
    held.holds resource ↔ holders resource log ≠ [] := by
  rw [ne_eq, ← List.length_eq_zero_iff]
  show _ ↔ holding resource log ≠ 0
  cases resource with
  | isolate =>
    rw [h.isolate]
    show held.isolateEntered = true ↔ _
    cases held.isolateEntered with
    | false => exact ⟨fun h => absurd h Bool.false_ne_true, fun h => absurd rfl h⟩
    | true => exact ⟨fun _ => Nat.one_ne_zero, fun _ => rfl⟩
  | scope => exact not_congr h.scope.eq_zero_iff
  | rootLease => exact not_congr h.rootLease.eq_zero_iff
  | transition => exact not_congr h.transition.eq_zero_iff
  | observation => exact not_congr h.observation.eq_zero_iff
  | handle => exact absurd rfl hresource

/-- An idle adapter has no holder. -/
theorem Ledger.vacant (h : Ledger held log) (hidle : held.ownerIdle = true)
    (hobservations : held.observations = 0) (owner : Option ThreadId) : HoldersOwn owner log := by
  simp only [VmHeld.ownerIdle, Bool.and_eq_true, Bool.not_eq_true', beq_iff_eq] at hidle
  obtain ⟨⟨⟨hisolate, hentered⟩, hleases⟩, htransitions⟩ := hidle
  intro resource thread hresource hthread
  have hholds := (h.holds_iff hresource).mpr (List.ne_nil_of_mem hthread)
  cases resource with
  | isolate => exact absurd hholds (Bool.eq_false_iff.mp hisolate)
  | scope => exact absurd hentered hholds
  | rootLease => exact absurd hleases hholds
  | transition => exact absurd htransitions hholds
  | observation => exact absurd hobservations hholds
  | handle => exact absurd rfl hresource

/-- A thread that finds nothing of another thread's takes the adapter over. -/
theorem HeldByOwner.own (h : HeldByOwner held log) (hledger : Ledger held log)
    (hfree : (∃ resource, held.holds resource) → held.owner = some thread) :
    HoldersOwn (some thread) log := by
  intro r t hr ht
  have howner := h.owner r t hr ht
  rw [hfree ⟨r, (hledger.holds_iff hr).mpr (List.ne_nil_of_mem ht)⟩] at howner
  exact howner

/-- What is held has an owner. -/
theorem HeldByOwner.owned (h : HeldByOwner held log) (hledger : Ledger held log)
    (hholds : ∃ resource, held.holds resource) : ∃ thread, held.owner = some thread := by
  obtain ⟨r, hr⟩ := hholds
  have hne : r ≠ .handle := by
    rintro rfl
    exact hr
  obtain ⟨t, ht⟩ := List.exists_mem_of_ne_nil _ ((hledger.holds_iff hne).mp hr)
  exact ⟨t, h.owner r t hne ht⟩

theorem HeldByOwner.of_open (h : HeldByOwner held log) (hledger : Ledger held log)
    (hopen : held.openTo thread) :
    (∃ resource, held.holds resource) → held.owner = some thread := by
  intro hholds
  rcases hopen with hnone | hsome
  · obtain ⟨t, ht⟩ := h.owned hledger hholds
    rw [hnone] at ht
    cases ht
  · exact hsome

/-- With no observation open the two clauses about observations say nothing. -/
theorem HoldersOwn.unobserved (h : HoldersOwn held.owner log) (hnone : held.observations = 0) :
    HeldByOwner held log :=
  ⟨h, fun hne => absurd hnone hne, fun hne => absurd hnone hne⟩

/-- An effect keeps the holders owners, when a first scope is entered by the owner of what is held
and the isolate is left last. -/
theorem HeldByOwner.effect (h : HeldByOwner held log) (hledger : Ledger held log)
    (hafter : Ledger after (deed.toList ++ log)) (heffect : VmEffect thread seizes held after deed)
    (hseizes : seizes → held.entered = 0 → (∃ resource, held.holds resource) →
      held.owner = some thread)
    (hleft : deed = some (.release thread .isolate) → held.leases = 0 ∧ held.transitions = 0) :
    HeldByOwner after (deed.toList ++ log) := by
  cases heffect with
  | idle => exact h
  | hooks hookRefs => exact { h with }
  | claimed hopen hattached =>
    have hfree := h.of_open hledger hopen
    refine ⟨h.own hledger hfree, fun hne => ?_, h.observing⟩
    exact (h.observer hne).trans (hfree ⟨.observation, hne⟩)
  | seized hadmitted hattached hentered hobservations =>
    exact HoldersOwn.unobserved (h.own hledger (hseizes hadmitted hentered)) hobservations
  | attach hattached hentered => exact { h with }
  | detach hattached hquiescent =>
    obtain ⟨hisolate, hentered, hleases, htransitions, hobservations, -, -⟩ := hquiescent
    refine HoldersOwn.unobserved (hafter.vacant ?_ hobservations _) hobservations
    simp only [VmHeld.ownerIdle, hisolate, hentered, hleases, htransitions, Bool.not_false,
      BEq.rfl, Bool.and_self]
  | enterIsolate hattached hopen hentered hisolate hobservations =>
    have hown := h.own hledger (h.of_open hledger hopen)
    exact HoldersOwn.unobserved hown.acquire hobservations
  | leaveIsolate hisolate hentered howner =>
    obtain ⟨hleases, htransitions⟩ := hleft rfl
    have hobservations : held.observations = 0 := by
      by_contra hne
      rw [(h.observing hne).1] at hisolate
      cases hisolate
    refine HoldersOwn.unobserved (hafter.vacant ?_ hobservations _) hobservations
    simp only [VmHeld.ownerIdle, hentered, hleases, htransitions, Bool.not_false,
      BEq.rfl, Bool.and_self]
  | enterScope hadmitted hattached hobservations howner =>
    have hfree : (∃ resource, held.holds resource) → held.owner = some thread := by
      intro hholds
      by_cases hentered : held.entered = 0
      · exact hseizes hadmitted hentered hholds
      · exact howner hentered
    exact HoldersOwn.unobserved (h.own hledger hfree).acquire hobservations
  | leaveScope hattached hentered howner =>
    rcases dropIdleOwner_cases { held with entered := held.entered - 1 } with heq | ⟨hidle, heq⟩
    · rw [heq]
      refine ⟨h.owner.release, h.observer, fun hne => ?_⟩
      obtain ⟨hisolate, hstate⟩ := h.observing hne
      exact ⟨hisolate, Or.inl (hstate.resolve_right hentered)⟩
    · rw [heq] at hafter ⊢
      have hobservations : held.observations = 0 := by
        by_contra hne
        simp only [VmHeld.ownerIdle, Bool.and_eq_true, beq_iff_eq] at hidle
        exact (h.observing hne).2.elim (fun htransitions => htransitions hidle.2) hentered
      exact HoldersOwn.unobserved (hafter.vacant hidle hobservations _) hobservations
  | pin hattached hopen htransitions hentered hobservations =>
    have hown := h.own hledger (h.of_open hledger hopen)
    exact HoldersOwn.unobserved hown.acquire hobservations
  | unpin hattached hopen hleases htransitions hentered hobservations =>
    have hown := h.own hledger (h.of_open hledger hopen)
    refine HoldersOwn.unobserved ?_ hobservations
    dsimp only
    split
    next hlast =>
      refine hafter.vacant ?_ hobservations _
      simp only [VmHeld.ownerIdle, hlast.1, hlast.2, hentered, htransitions, Bool.not_false,
        BEq.rfl, Bool.and_self]
    · exact hown.release
  | enterNative hattached hopen hleases htransitions hentered hobservations =>
    have hown := h.own hledger (h.of_open hledger hopen)
    exact HoldersOwn.unobserved hown.acquire hobservations
  | leaveNative howner hleases htransitions hentered hobservations =>
    exact HoldersOwn.unobserved h.owner.release hobservations
  | observe hattached hopen hisolate hstate hobservations =>
    have hown := h.own hledger (h.of_open hledger hopen)
    refine ⟨hown.acquire, fun _ => rfl, fun _ => ⟨hisolate, ?_⟩⟩
    rcases hstate with ⟨htransitions, -, -⟩ | ⟨-, hentered⟩
    · refine Or.inl ?_
      show held.transitions ≠ 0
      rw [htransitions]
      decide
    · exact Or.inr hentered
  | unobserve hobservations hobserver =>
    rcases dropIdleOwner_cases { held with observations := 0, observer := none } with
      heq | ⟨hidle, heq⟩
    · rw [heq]
      exact HoldersOwn.unobserved h.owner.release rfl
    · rw [heq] at hafter ⊢
      exact HoldersOwn.unobserved (hafter.vacant hidle rfl _) rfl
  | retain hattached hentered howner => exact { h with owner := h.owner.retain }
  | release hattached =>
    split
    · exact { h with owner := h.owner.release }
    · exact { h with owner := h.owner.release }

end Holders

/-! ## One step -/

/-- The counters agree with the log and the holders own the adapter. -/
structure WorldOwned (world : VmWorld) : Prop where
  ledger : WorldLedger world
  held : HeldByOwner world.adapter.held world.log

section Step
variable {profiles : List RuntimeProfileRecord} {world : VmWorld} {thread other : ThreadId}
  {call : VmCall} {resource : VmResource} {failure : Failure}

theorem settle_refuses {α : Type} {deed : Option VmDeed} {step : Step α}
    (h : Refuses world.adapter step) :
    ∃ failure, world.settle deed step = (world, .refused failure) := by
  obtain ⟨failure, rfl⟩ := h
  exact ⟨failure, rfl⟩

theorem settle_refused {α : Type} {deed : Option VmDeed} {step : Step α}
    (h : (world.settle deed step).2 = .refused failure) : step.2 = .refused failure := by
  obtain ⟨adapter, outcome⟩ := step
  cases outcome with
  | ok value => cases h
  | refused other => exact congrArg VmOutcome.refused (VmOutcome.refused.inj h)
  | backend status => cases h

/-- Every call of the owner's is refused to another thread. -/
theorem WorldOwned.foreign (h : WorldOwned world) (hkeeps : KeepsOwner world (thread, call)) :
    ForeignRefused profiles world (thread, call) := by
  intro honly hholds hforeign
  obtain ⟨other, howner⟩ := h.held.owned h.ledger.ledger hholds
  have hne : other ≠ thread := by
    rintro rfl
    exact hforeign howner
  have howner : world.adapter.ownerThread = some other := howner
  cases call with
  | enterIsolate status => exact settle_refuses (enterIsolate_foreign howner hne)
  | leaveIsolate status => exact settle_refuses (leaveIsolate_foreign howner hne)
  | enterScope status =>
    refine settle_refuses (enterScope_foreign howner hne fun hadmitted hentered => ?_)
    exact hforeign (hkeeps hadmitted hentered hholds)
  | leaveScope status => exact settle_refuses (leaveScope_foreign howner hne)
  | pinGeneratedRoots contended rawValues valueCount status lease =>
    exact settle_refuses (pinGeneratedRoots_foreign howner hne)
  | generatedRootGet rootLease status raw =>
    exact settle_refuses (generatedRootGet_foreign howner hne)
  | generatedRootSet rootLease status => exact settle_refuses (generatedRootSet_foreign howner hne)
  | unpinGeneratedRoots contended rootLease outRawValues valueCount status =>
    exact settle_refuses (unpinGeneratedRoots_foreign howner hne)
  | enterGeneratedToNative contended frame rootLease status =>
    exact settle_refuses (enterGeneratedToNative_foreign howner hne)
  | leaveNativeToGenerated frame rootLease status =>
    exact settle_refuses (leaveNativeToGenerated_foreign howner hne)
  | beginLiveHeapObservation vmThread status lease =>
    exact settle_refuses (beginLiveHeapObservation_foreign howner hne)
  | endLiveHeapObservation lease status =>
    exact settle_refuses (endLiveHeapObservation_foreign howner hne h.held.observer)
  | _ => cases honly

theorem WorldOwned.step {action : ThreadId × VmCall} (h : WorldOwned world)
    (hroom : RoomFor world action) (hkeeps : KeepsOwner world action) :
    WorldOwned (vmStep profiles world action) := by
  obtain ⟨thread, call⟩ := action
  have hafter : WorldLedger (vmStep profiles world (thread, call)) := h.ledger.step hroom
  refine ⟨hafter, ?_⟩
  obtain ⟨done, hmoves, hdone⟩ := perform_moves profiles world thread call
  have hlog : (vmStep profiles world (thread, call)).log = done.toList ++ world.log := hmoves.log
  rw [hlog]
  refine h.held.effect h.ledger.ledger (hlog ▸ hafter.ledger) hmoves.effect ?_ ?_
  · intro hseizes hentered hholds
    cases call with
    | enterScope status => exact hkeeps hseizes hentered hholds
    | _ => cases hseizes
  · rintro rfl
    rcases hdone with hnone | hdeed
    · cases hnone
    · have heffect := hmoves.effect
      generalize (world.perform profiles thread call).1.adapter.held = after at heffect
      cases call with
      | leaveIsolate status =>
        have hok : status = .ok := by
          by_contra hfailed
          have hsame : (vmStep profiles world (thread, .leaveIsolate status)).log = world.log := by
            show (world.settle _ (world.adapter.leaveIsolate thread status)).1.log = _
            unfold leaveIsolate
            split
            · rfl
            · rfl
          rw [hlog] at hsame
          exact List.cons_ne_self _ _ hsame
        cases heffect with
        | leaveIsolate hisolate hentered howner => exact hkeeps hok hisolate hentered howner
      | _ => cases hdeed

/-- A thread that gives back what it holds is not refused as a foreign one. -/
theorem WorldOwned.givenBack (h : WorldOwned world) (hholds : world.adapter.held.holds resource)
    (hthread : thread ∈ holders resource world.log)
    (hdeed : call.deed thread = some (.release thread resource))
    (hrefused : (world.perform profiles thread call).2 = .refused failure) :
    failure.status ≠ .vmThreadMismatch := by
  have hresource : resource ≠ .handle := by
    rintro rfl
    exact hholds
  have howner : world.adapter.ownerThread = some thread :=
    h.held.owner resource thread hresource hthread
  cases call with
  | leaveIsolate status =>
    cases hdeed
    exact leaveIsolate_native howner hholds _ (settle_refused hrefused)
  | leaveScope status => exact leaveScope_native howner _ (settle_refused hrefused)
  | unpinGeneratedRoots contended rootLease outRawValues valueCount status =>
    exact unpinGeneratedRoots_native howner _ (settle_refused hrefused)
  | leaveNativeToGenerated frame rootLease status =>
    exact leaveNativeToGenerated_native howner _ (settle_refused hrefused)
  | endLiveHeapObservation lease status =>
    exact endLiveHeapObservation_native _ (settle_refused hrefused)
  | releaseObject handle status =>
    cases hdeed
    exact absurd rfl hresource
  | _ => cases hdeed

theorem WorldOwned.ownedByAcquirer (h : WorldOwned world) : OwnedByAcquirer profiles world where
  acquirer := by
    intro resource hholds
    have hresource : resource ≠ .handle := by
      rintro rfl
      exact hholds
    exact ⟨(h.ledger.ledger.holds_iff hresource).mp hholds,
      fun thread hthread => h.held.owner resource thread hresource hthread⟩
  givenBack := fun _ _ _ _ hholds hthread hdeed hrefused =>
    h.givenBack hholds hthread hdeed hrefused

/-- A first scope makes its thread the owner, even when the backend does not enter it. -/
theorem enterScope_seizes {adapter : DartPlantVmAdapter} {status : DartPlantStatus}
    (hadmitted : adapter.admitsScope) (hentered : adapter.entered = 0) :
    (adapter.enterScope thread status).1.ownerThread = some thread := by
  obtain ⟨hopen, hattached, hobservations⟩ := hadmitted
  unfold enterScope
  rw [if_neg hopen, if_neg (Bool.not_eq_false _ ▸ hattached), if_neg (not_not.mpr hobservations),
    if_neg fun h => h.1 hentered, if_pos hentered]
  dsimp only
  split
  · rfl
  · rfl

theorem settle_adapter {α : Type} {deed : Option VmDeed} {step : Step α} :
    (world.settle deed step).1.adapter = step.1 := by
  obtain ⟨adapter, outcome⟩ := step
  cases outcome with
  | ok value => rfl
  | refused failure => rfl
  | backend status => rfl

/-- A step that does not keep the owner lets a foreign thread in, or leaves something without its
owner. -/
theorem owner_lost {action : ThreadId × VmCall} (hlost : ¬ KeepsOwner world action)
    (hforeign : ForeignRefused profiles world action) :
    ¬ OwnedByAcquirer profiles (vmStep profiles world action) := by
  obtain ⟨thread, call⟩ := action
  cases call with
  | enterScope status =>
    simp only [KeepsOwner, Classical.not_imp] at hlost
    obtain ⟨hadmitted, hentered, hholds, hother⟩ := hlost
    obtain ⟨failure, hsame⟩ := hforeign rfl hholds hother
    have hseized : (world.perform profiles thread (.enterScope status)).1.adapter.ownerThread =
        some thread := by
      show (world.settle _ (world.adapter.enterScope thread status)).1.adapter.ownerThread = _
      rw [settle_adapter]
      exact enterScope_seizes hadmitted hentered
    rw [hsame] at hseized
    exact absurd hseized hother
  | leaveIsolate status =>
    simp only [KeepsOwner, Classical.not_imp] at hlost
    obtain ⟨hok, hisolate, hentered, howner, hheld⟩ := hlost
    intro howned
    have hleft : (vmStep profiles world (thread, .leaveIsolate status)).adapter =
        { world.adapter with isolateEntered := false, ownerThread := none } := by
      show (world.settle _ (world.adapter.leaveIsolate thread status)).1.adapter = _
      rw [settle_adapter, leaveIsolate,
        if_neg (by rw [hisolate, hentered, howner]; simp), if_neg (not_not.mpr hok)]
    have hvacant : ∀ resource, ¬ (vmStep profiles world
        (thread, .leaveIsolate status)).adapter.held.holds resource := by
      intro resource hholds
      obtain ⟨hne, hall⟩ := howned.acquirer resource hholds
      obtain ⟨holder, hholder⟩ := List.exists_mem_of_ne_nil _ hne
      have hnone := hall holder hholder
      rw [hleft] at hnone
      cases hnone
    refine hheld ⟨?_, ?_⟩
    · have hleases := hvacant .rootLease
      rw [hleft] at hleases
      exact not_not.mp hleases
    · have htransitions := hvacant .transition
      rw [hleft] at htransitions
      exact not_not.mp htransitions
  | _ => exact absurd trivial hlost

end Step

/-! ## Every run -/

theorem worldOwned_create {callbacks : DartPlantVmAdapterCallbacks} {adapter : DartPlantVmAdapter}
    (hcreate : vmAdapterCreate callbacks = .ok adapter) : WorldOwned { adapter } := by
  refine ⟨worldLedger_create hcreate, fun resource thread hresource hthread => ?_, ?_, ?_⟩
  · cases hthread
  all_goals
    intro hne
    have hledger := (worldLedger_create hcreate).ledger.observation
    exact absurd (hledger.eq_zero_iff.mpr rfl) hne

/-- In every run that overflows no counter: what the adapter holds for a thread is its owner's, and
no other thread gets in, exactly when every step keeps the owner. -/
theorem adapter_owned (profiles : List RuntimeProfileRecord)
    {callbacks : DartPlantVmAdapterCallbacks} {adapter : DartPlantVmAdapter}
    (hcreate : vmAdapterCreate callbacks = .ok adapter) (actions : List (ThreadId × VmCall))
    (hroom : AlongSteps (vmStep profiles) RoomFor { adapter } actions) :
    Along (vmStep profiles) (OwnedByAcquirer profiles) { adapter } actions ∧
        AlongSteps (vmStep profiles) (ForeignRefused profiles) { adapter } actions ↔
      AlongSteps (vmStep profiles) KeepsOwner { adapter } actions := by
  refine along_and_steps_iff (fun world h => h.ownedByAcquirer) ?_ ?_ hroom
    (worldOwned_create hcreate)
  · intro world action h hroom hkeeps
    exact ⟨h.step hroom hkeeps, h.foreign hkeeps⟩
  · intro world action _ _ hlost hforeign
    exact owner_lost hlost hforeign

/-- Two visits of the isolate, by one thread after the other. -/
theorem adapter_owned_in_turn :
    Along (vmStep []) (OwnedByAcquirer []) { adapter := { callbacks := completeCallbacks } }
        [(1, .attachIsolate ⟨1, 1, 1⟩), (1, .enterIsolate .ok), (1, .enterScope .ok),
          (1, .leaveScope .ok), (1, .leaveIsolate .ok), (2, .enterIsolate .ok)] ∧
      AlongSteps (vmStep []) (ForeignRefused []) { adapter := { callbacks := completeCallbacks } }
        [(1, .attachIsolate ⟨1, 1, 1⟩), (1, .enterIsolate .ok), (1, .enterScope .ok),
          (1, .leaveScope .ok), (1, .leaveIsolate .ok), (2, .enterIsolate .ok)] := by
  have hcreate : vmAdapterCreate completeCallbacks = .ok { callbacks := completeCallbacks } := rfl
  refine (adapter_owned [] hcreate _ ?_).mpr ?_
  · simp only [alongSteps_cons, alongSteps_nil, and_true]
    decide
  · simp only [alongSteps_cons, alongSteps_nil, and_true]
    exact ⟨trivial, trivial, fun _ _ _ => rfl, trivial, fun _ _ _ _ => ⟨rfl, rfl⟩, trivial⟩

/-- A second thread enters a scope while the first one is in the isolate. -/
theorem scope_seized :
    ¬(Along (vmStep []) (OwnedByAcquirer []) { adapter := { callbacks := completeCallbacks } }
        [(1, .attachIsolate ⟨1, 1, 1⟩), (1, .enterIsolate .ok), (2, .enterScope .ok)] ∧
      AlongSteps (vmStep []) (ForeignRefused []) { adapter := { callbacks := completeCallbacks } }
        [(1, .attachIsolate ⟨1, 1, 1⟩), (1, .enterIsolate .ok), (2, .enterScope .ok)]) := by
  rintro ⟨-, hforeign⟩
  obtain ⟨failure, hsame⟩ := hforeign [(1, .attachIsolate ⟨1, 1, 1⟩), (1, .enterIsolate .ok)]
    (2, .enterScope .ok) (List.prefix_refl _) rfl ⟨.isolate, rfl⟩ (by decide)
  cases congrArg Prod.snd hsame

end DartPlant
