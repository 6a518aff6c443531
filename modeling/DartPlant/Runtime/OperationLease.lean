import DartPlant.Core.Status
import DartPlant.Lib.Census
import DartPlant.Lib.Runs

/-! # Operations on a runtime that may be closing

Every runtime has a registration, found by the address of the runtime, and every public operation
holds a lease on it.  `CloseRuntime` takes the registration out of the registry and waits until the
last lease is gone; only then does `dartplant_runtime_destroy` delete the runtime, and its address
may be allocated again.

Everything that looks at the registry or at a count does so under one mutex and is one step.  A lease
is a handle that is empty or refers to a registration.  A move assignment is the release of its left
side, then the move, with any steps of others between them.  Registrations are numbered in the order
they are made; a count is a `size_t` that never exceeds the leases in memory, and a `Nat` here.
-/

namespace DartPlant
open Census Runs Function List

structure RuntimeRegistration where
  runtime : Address := nullptr
  closing : Bool := false
  activeOperations : ℕ := 0
  deriving DecidableEq, Repr

/-- Where a call of `dartplant_runtime_destroy` is. -/
inductive ClosePhase where
  | idle
  | refused
  | waiting (registration : ℕ)
  | closed (registration : ℕ)
  | deleted (registration : ℕ)
  deriving DecidableEq, Repr

/-- The registration the call took out of the registry. -/
def ClosePhase.taken : ClosePhase → Option ℕ
  | waiting r => some r
  | closed r => some r
  | deleted r => some r
  | _ => none

/-- `CloseRuntime` has returned the registration. -/
def ClosePhase.HasClosed (phase : ClosePhase) (r : ℕ) : Prop := phase = closed r ∨ phase = deleted r

/-- The registry, the handles `η` and the calls `κ` of `dartplant_runtime_destroy`.  `heap` says
which registration the runtime object at an address belongs to. -/
structure LeaseWorld (η κ : Type) where
  created : ℕ := 0
  registration : ℕ → RuntimeRegistration := fun _ => {}
  registry : List ℕ := []
  heap : Address → Option ℕ := fun _ => none
  lease : η → Option ℕ := fun _ => none
  closer : κ → ClosePhase := fun _ => .idle

inductive LeaseAction (η κ : Type) where
  | createRuntime (address : Address)
  | acquireOperation (handle : η) (runtime : Address)
  | pinRefreshes (handles : List η)
  | releaseOperation (handle : η)
  | moveLease (source destination : η)
  | closeRuntime (call : κ) (runtime : Address)
  | closeReturns (call : κ)
  | deleteRuntime (call : κ)

section Step
variable {η κ : Type} [DecidableEq η] [DecidableEq κ]

namespace LeaseWorld
variable (w : LeaseWorld η κ)

/-- `new DartPlantRuntime` at a free address, with `RegisterRuntime`. -/
def createRuntime (address : Address) : LeaseWorld η κ :=
  { w with
    created := w.created + 1
    registration := update w.registration w.created { runtime := address }
    registry := w.registry ++ [w.created]
    heap := update w.heap address (some w.created) }

/-- One more operation, and the lease that stands for it. -/
def grant (r : ℕ) (handle : η) : LeaseWorld η κ :=
  let registration := w.registration r
  { w with
    registration := update w.registration r
      { registration with activeOperations := registration.activeOperations + 1 }
    lease := update w.lease handle (some r) }

/-- `AcquireRuntimeOperation` into an empty handle. -/
def acquireOperation (handle : η) (runtime : Address) : LeaseWorld η κ :=
  if runtime = nullptr then w
  else
    match w.registry.find? fun r =>
      (w.registration r).runtime == runtime && !(w.registration r).closing with
    | none => w
    | some r => w.grant r handle

/-- The registrations `PinRuntimeRefreshes` pins. -/
def pinned : List ℕ := w.registry.filter fun r => !(w.registration r).closing

/-- `PinRuntimeRefreshes`, with one handle for each lease it returns. -/
def pinRefreshes (handles : List η) : LeaseWorld η κ :=
  (w.pinned.zip handles).foldl (fun w pin => w.grant pin.1 pin.2) w

/-- `ReleaseRuntimeOperation` of a handle. -/
def releaseOperation (handle : η) : LeaseWorld η κ :=
  match w.lease handle with
  | none => w
  | some r =>
    let registration := w.registration r
    { w with
      registration := update w.registration r
        { registration with activeOperations := registration.activeOperations - 1 }
      lease := update w.lease handle none }

/-- The registration moves from one handle to the other. -/
def moveLease (source destination : η) : LeaseWorld η κ :=
  { w with lease :=
      update (update w.lease destination (w.lease source)) source none }

/-- `CloseRuntime` up to its wait; it looks only at the address. -/
def closeRuntime (call : κ) (runtime : Address) : LeaseWorld η κ :=
  match w.registry.find? fun r => (w.registration r).runtime == runtime with
  | none => { w with closer := update w.closer call .refused }
  | some r =>
    { w with
      registration := update w.registration r { w.registration r with closing := true }
      registry := w.registry.erase r
      closer := update w.closer call (.waiting r) }

end LeaseWorld

/-- One step; `none` when it cannot be taken now. -/
def leaseStep (w : LeaseWorld η κ) : LeaseAction η κ → Option (LeaseWorld η κ)
  | .createRuntime address =>
    if address ≠ nullptr ∧ w.heap address = none then some (w.createRuntime address) else none
  | .acquireOperation handle runtime =>
    if w.lease handle = none then some (w.acquireOperation handle runtime) else none
  | .pinRefreshes handles =>
    if handles.length = w.pinned.length ∧ handles.Nodup ∧ ∀ h ∈ handles, w.lease h = none then
      some (w.pinRefreshes handles)
    else none
  | .releaseOperation handle => some (w.releaseOperation handle)
  | .moveLease source destination =>
    if source ≠ destination ∧ w.lease destination = none then
      some (w.moveLease source destination)
    else none
  | .closeRuntime call runtime =>
    if w.closer call = .idle then some (w.closeRuntime call runtime) else none
  | .closeReturns call =>
    match w.closer call with
    | .waiting r =>
      if (w.registration r).activeOperations = 0 then
        some { w with closer := update w.closer call (.closed r) }
      else none
    | _ => none
  | .deleteRuntime call =>
    match w.closer call with
    | .closed r =>
      some { w with
        heap := update w.heap (w.registration r).runtime none
        closer := update w.closer call (.deleted r) }
    | _ => none

end Step

/-! ## The invariant -/

section Invariant
variable {η κ : Type}

/-- Counts are exact, what is registered is open, and what is taken is closing and taken once. -/
structure Leased (w : LeaseWorld η κ) : Prop where
  counted : ∀ r, census (fun lease => lease = some r) w.lease =
    ((w.registration r).activeOperations : ℕ∞)
  unmade : ∀ r, w.created ≤ r → w.registration r = {}
  nodup : w.registry.Nodup
  made : ∀ r ∈ w.registry, r < w.created
  opened : ∀ r ∈ w.registry, (w.registration r).closing = false
  standing : ∀ r ∈ w.registry, w.heap (w.registration r).runtime = some r
  taken : ∀ t r, (w.closer t).taken = some r → r < w.created ∧ (w.registration r).closing = true
  kept : ∀ t r, w.closer t = .waiting r ∨ w.closer t = .closed r →
    w.heap (w.registration r).runtime = some r
  unique : ∀ t t' r, (w.closer t).taken = some r → (w.closer t').taken = some r → t = t'
  drained : ∀ t r, (w.closer t).HasClosed r → (w.registration r).activeOperations = 0

theorem Leased.initial : Leased ({} : LeaseWorld η κ) where
  counted := fun r => census_eq_zero.mpr fun _ h => nomatch h
  unmade := fun _ _ => rfl
  nodup := nodup_nil
  made := fun _ h => absurd h not_mem_nil
  opened := fun _ h => absurd h not_mem_nil
  standing := fun _ h => absurd h not_mem_nil
  taken := fun _ _ h => nomatch h
  kept := fun _ _ h => by
    rcases h with h | h
    · cases h
    · cases h
  unique := fun _ _ _ h => nomatch h
  drained := fun _ _ h => by
    rcases h with h | h
    · cases h
    · cases h

theorem ClosePhase.HasClosed.taken {phase : ClosePhase} {r : ℕ} (h : phase.HasClosed r) :
    phase.taken = some r := by
  rcases h with rfl | rfl
  · rfl
  · rfl

variable {w w' : LeaseWorld η κ} {r : ℕ} {h : η} {t : κ}

section
variable (hw : Leased w)
include hw

/-- A lease refers to a registration whose count is not zero. -/
theorem Leased.leased (hlease : w.lease h = some r) : (w.registration r).activeOperations ≠ 0 :=
  census_pos (P := fun lease => lease = some r) hlease (hw.counted r)

theorem Leased.not_taken (hr : r ∈ w.registry) : (w.closer t).taken ≠ some r := by
  intro htaken
  have hclosing := (hw.taken t r htaken).2
  rw [hw.opened r hr] at hclosing
  cases hclosing

theorem Leased.registered_lease (hlease : w.lease h = some r) : r < w.created := by
  by_contra hmade
  refine hw.leased hlease ?_
  rw [hw.unmade r (Nat.le_of_not_lt hmade)]

/-! ## Every step -/

theorem Leased.createRuntime {address : Address} (hfree : w.heap address = none) :
    Leased (w.createRuntime address) := by
  have hold : ∀ s, s < w.created →
      update w.registration w.created { runtime := address } s = w.registration s :=
    fun s hs => update_of_ne (Nat.ne_of_lt hs) _ _
  have hheap : ∀ s, s < w.created → w.heap (w.registration s).runtime = some s →
      update w.heap address (some w.created) (w.registration s).runtime = some s := by
    intro s _ hs
    rw [update_of_ne, hs]
    intro heq
    rw [heq, hfree] at hs
    cases hs
  have hmem : ∀ s ∈ w.registry ++ [w.created], s < w.created ∧ s ∈ w.registry ∨ s = w.created := by
    intro s hs
    rcases mem_append.mp hs with hs | hs
    · exact Or.inl ⟨hw.made s hs, hs⟩
    · exact Or.inr (mem_singleton.mp hs)
  refine ⟨fun s => ?_, fun s hs => ?_, ?_, fun s hs => ?_, fun s hs => ?_, fun s hs => ?_,
    fun t s hs => ?_, fun t s hs => ?_, hw.unique, fun t s hs => ?_⟩
  · show census (fun lease => lease = some s) w.lease =
      ((update w.registration w.created { runtime := address } s).activeOperations : ℕ∞)
    by_cases hs : s = w.created
    · subst hs
      rw [hw.counted, hw.unmade _ (Nat.le_refl _), update_self]
    · rw [hw.counted, update_of_ne hs]
  · exact (update_of_ne (Nat.ne_of_gt hs) _ _).trans (hw.unmade s (Nat.le_of_succ_le hs))
  · refine hw.nodup.append (nodup_singleton _) ?_
    rw [disjoint_singleton]
    exact fun hmem => Nat.lt_irrefl _ (hw.made _ hmem)
  · rcases hmem s hs with ⟨hlt, -⟩ | rfl
    · exact Nat.lt_succ_of_lt hlt
    · exact Nat.lt_succ_self _
  · show (update w.registration w.created { runtime := address } s).closing = false
    rcases hmem s hs with ⟨hlt, hs⟩ | rfl
    · rw [hold s hlt, hw.opened s hs]
    · rw [update_self]
  · show update w.heap address (some w.created)
      (update w.registration w.created { runtime := address } s).runtime = some s
    rcases hmem s hs with ⟨hlt, hs⟩ | rfl
    · rw [hold s hlt, hheap s hlt (hw.standing s hs)]
    · rw [update_self, update_self]
  · show s < w.created + 1 ∧
      (update w.registration w.created { runtime := address } s).closing = true
    obtain ⟨hlt, hclosing⟩ := hw.taken t s hs
    rw [hold s hlt]
    exact ⟨Nat.lt_succ_of_lt hlt, hclosing⟩
  · show update w.heap address (some w.created)
      (update w.registration w.created { runtime := address } s).runtime = some s
    have htaken : (w.closer t).taken = some s := by
      rcases hs with hs | hs
      · exact congrArg ClosePhase.taken hs
      · exact congrArg ClosePhase.taken hs
    obtain ⟨hlt, -⟩ := hw.taken t s htaken
    rw [hold s hlt, hheap s hlt (hw.kept t s hs)]
  · show (update w.registration w.created { runtime := address } s).activeOperations = 0
    rw [hold s (hw.taken t s (ClosePhase.HasClosed.taken hs)).1]
    exact hw.drained t s hs

/-- A change of counts and leases only. -/
theorem Leased.recount (registration : ℕ → RuntimeRegistration) (lease : η → Option ℕ)
    (hcounted : ∀ s, census (fun lease => lease = some s) lease =
      ((registration s).activeOperations : ℕ∞))
    (hruntime : ∀ s, (registration s).runtime = (w.registration s).runtime)
    (hclosing : ∀ s, (registration s).closing = (w.registration s).closing)
    (hunmade : ∀ s, w.created ≤ s → registration s = {})
    (hdrained : ∀ s, (w.registration s).activeOperations = 0 →
      (w.registration s).closing = true → (registration s).activeOperations = 0) :
    Leased { w with registration, lease } where
  counted := hcounted
  unmade := hunmade
  nodup := hw.nodup
  made := hw.made
  opened := fun s hs => (hclosing s).trans (hw.opened s hs)
  standing := fun s hs => by
    show w.heap (registration s).runtime = some s
    rw [hruntime]
    exact hw.standing s hs
  taken := fun t s hs => ⟨(hw.taken t s hs).1, (hclosing s).trans (hw.taken t s hs).2⟩
  kept := fun t s hs => by
    show w.heap (registration s).runtime = some s
    rw [hruntime]
    exact hw.kept t s hs
  unique := hw.unique
  drained := fun t s hs => hdrained s (hw.drained t s hs)
    (hw.taken t s (ClosePhase.HasClosed.taken hs)).2

section Handles
variable [DecidableEq η]

theorem Leased.grant (hr : r ∈ w.registry) (hempty : w.lease h = none) : Leased (w.grant r h) := by
  refine hw.recount _ _ (fun s => ?_) (fun s => ?_) (fun s => ?_) (fun s hs => ?_)
    fun s hzero hclosing => ?_
  · by_cases hs : s = r
    · subst hs
      rw [update_self]
      exact census_enter (P := fun lease => lease = some s) (by rw [hempty]; exact nofun) rfl
        (hw.counted s)
    · rw [update_of_ne hs, ← hw.counted s]
      refine census_update_of_iff (P := fun lease => lease = some s) ?_
      rw [hempty]
      exact iff_of_false (fun heq => hs (Option.some.inj heq).symm) nofun
  · by_cases hs : s = r
    · subst hs
      rw [update_self]
    · rw [update_of_ne hs]
  · by_cases hs : s = r
    · subst hs
      rw [update_self]
    · rw [update_of_ne hs]
  · have hne : s ≠ r := fun heq => absurd (hw.made r hr) (Nat.not_lt.mpr (heq ▸ hs))
    rw [update_of_ne hne, hw.unmade s hs]
  · have hne : s ≠ r := by
      rintro rfl
      rw [hw.opened s hr] at hclosing
      cases hclosing
    rw [update_of_ne hne, hzero]

theorem Leased.acquireOperation (runtime : Address) (hempty : w.lease h = none) :
    Leased (w.acquireOperation h runtime) := by
  unfold LeaseWorld.acquireOperation
  split
  · exact hw
  · split
    · exact hw
    next r hfind => exact hw.grant (mem_of_find?_eq_some hfind) hempty

theorem Leased.pins {pins : List (ℕ × η)}
    (hregistered : ∀ pin ∈ pins, pin.1 ∈ w.registry) (hnodup : (pins.map Prod.snd).Nodup)
    (hempty : ∀ pin ∈ pins, w.lease pin.2 = none) :
    Leased (pins.foldl (fun w pin => w.grant pin.1 pin.2) w) := by
  induction pins generalizing w with
  | nil => exact hw
  | cons pin pins ih =>
    rw [map_cons, nodup_cons] at hnodup
    refine ih (hw.grant (hregistered pin mem_cons_self) (hempty pin mem_cons_self))
      (fun other hother => hregistered other (mem_cons_of_mem _ hother)) hnodup.2
      fun other hother => ?_
    show update w.lease pin.2 (some pin.1) other.2 = none
    rw [update_of_ne]
    · exact hempty other (mem_cons_of_mem _ hother)
    · intro heq
      exact hnodup.1 (heq ▸ mem_map_of_mem hother)

theorem Leased.pinRefreshes {handles : List η} (hnodup : handles.Nodup)
    (hlength : handles.length = w.pinned.length) (hempty : ∀ h ∈ handles, w.lease h = none) :
    Leased (w.pinRefreshes handles) := by
  have hsnd : (w.pinned.zip handles).map Prod.snd = handles :=
    map_snd_zip (Nat.le_of_eq hlength)
  refine hw.pins (fun pin hpin => ?_) (hsnd.symm ▸ hnodup) fun pin hpin => ?_
  · exact mem_of_mem_filter (of_mem_zip hpin).1
  · exact hempty pin.2 (of_mem_zip hpin).2

theorem Leased.releaseOperation (h : η) : Leased (w.releaseOperation h) := by
  unfold LeaseWorld.releaseOperation
  split
  · exact hw
  next r hlease =>
    refine hw.recount _ _ (fun s => ?_) (fun s => ?_) (fun s => ?_) (fun s hs => ?_)
      fun s hzero _ => ?_
    · by_cases hs : s = r
      · subst hs
        rw [update_self]
        exact census_leave (P := fun lease => lease = some s) hlease (Option.some_ne_none s).symm
          (hw.counted s)
      · rw [update_of_ne hs, ← hw.counted s]
        refine census_update_of_iff (P := fun lease => lease = some s) ?_
        rw [hlease]
        exact iff_of_false (Option.some_ne_none s).symm fun heq => hs (Option.some.inj heq).symm
    · by_cases hs : s = r
      · subst hs
        rw [update_self]
      · rw [update_of_ne hs]
    · by_cases hs : s = r
      · subst hs
        rw [update_self]
      · rw [update_of_ne hs]
    · have hne : s ≠ r := fun heq =>
        absurd (hw.registered_lease hlease) (Nat.not_lt.mpr (heq ▸ hs))
      rw [update_of_ne hne, hw.unmade s hs]
    · have hne : s ≠ r := by
        rintro rfl
        exact hw.leased hlease hzero
      rw [update_of_ne hne, hzero]

theorem Leased.moveLease {source destination : η} (hne : source ≠ destination)
    (hempty : w.lease destination = none) : Leased (w.moveLease source destination) := by
  refine hw.recount _ _ (fun s => ?_) (fun _ => rfl) (fun _ => rfl) hw.unmade fun _ hzero _ => hzero
  have hsource : update w.lease destination (w.lease source) source = w.lease source :=
    update_of_ne hne _ _
  have hdestination : w.lease destination ≠ some s := by
    rw [hempty]
    exact nofun
  by_cases hs : w.lease source = some s
  · -- The move enters the destination first, then leaves the source.
    have henter : census (fun lease => lease = some s)
        (update w.lease destination (w.lease source)) =
          (((w.registration s).activeOperations + 1 : ℕ) : ℕ∞) :=
      census_enter (P := fun lease => lease = some s) hdestination hs (hw.counted s)
    have hleave := census_leave (P := fun lease => lease = some s) (i := source) (b := none)
      (hsource.trans hs) nofun henter
    rw [Nat.add_sub_cancel] at hleave
    exact hleave
  · have hstay : census (fun lease => lease = some s)
        (update w.lease destination (w.lease source)) =
          ((w.registration s).activeOperations : ℕ∞) :=
      (census_update_of_iff (P := fun lease => lease = some s)
        (iff_of_false hs hdestination)).trans (hw.counted s)
    refine (census_update_of_iff (P := fun lease => lease = some s) ?_).trans hstay
    exact iff_of_false nofun fun heq => hs (hsource.symm.trans heq)

end Handles

section Calls
variable [DecidableEq κ]

/-- A call that goes on with the registration it took, or with none. -/
theorem Leased.rephase {phase : ClosePhase}
    (htaken : ∀ s, phase.taken = some s → (w.closer t).taken = some s)
    (hkept : ∀ s, phase = .waiting s ∨ phase = .closed s →
      w.closer t = .waiting s ∨ w.closer t = .closed s)
    (hdrained : ∀ s, phase.HasClosed s → (w.registration s).activeOperations = 0) :
    Leased { w with closer := update w.closer t phase } := by
  have htook : ∀ t' s, (update w.closer t phase t').taken = some s →
      (w.closer t').taken = some s := by
    intro t' s hs
    by_cases heq : t' = t
    · subst heq
      rw [update_self] at hs
      exact htaken s hs
    · rwa [update_of_ne heq] at hs
  refine { hw with
    taken := fun t' s hs => hw.taken t' s (htook t' s hs)
    kept := fun t' s hs => ?_
    unique := fun t' t'' s hs hs' => hw.unique t' t'' s (htook t' s hs) (htook t'' s hs')
    drained := fun t' s hs => ?_ }
  · have hs : update w.closer t phase t' = .waiting s ∨
        update w.closer t phase t' = .closed s := hs
    by_cases heq : t' = t
    · subst heq
      rw [update_self] at hs
      exact hw.kept t' s (hkept s hs)
    · rw [update_of_ne heq] at hs
      exact hw.kept t' s hs
  · have hs : (update w.closer t phase t').HasClosed s := hs
    by_cases heq : t' = t
    · subst heq
      rw [update_self] at hs
      exact hdrained s hs
    · rw [update_of_ne heq] at hs
      exact hw.drained t' s hs

theorem Leased.closeRuntime (runtime : Address) (hidle : w.closer t = .idle) :
    Leased (w.closeRuntime t runtime) := by
  unfold LeaseWorld.closeRuntime
  split
  · refine hw.rephase (fun s hs => ?_) (fun s hs => ?_) fun s hs => ?_
    · cases hs
    · rcases hs with hs | hs
      · cases hs
      · cases hs
    · rcases hs with hs | hs
      · cases hs
      · cases hs
  next r hfind =>
    have hr := mem_of_find?_eq_some hfind
    let registration :=
      update w.registration r { w.registration r with closing := true }
    have hother : ∀ s, s ≠ r → registration s = w.registration s :=
      fun s hs => update_of_ne hs _ _
    have hself : registration r = { w.registration r with closing := true } :=
      update_self _ _ _
    have hkeep : ∀ s, (registration s).runtime = (w.registration s).runtime ∧
        (registration s).activeOperations = (w.registration s).activeOperations := by
      intro s
      by_cases hs : s = r
      · subst hs
        rw [hself]
        exact ⟨rfl, rfl⟩
      · rw [hother s hs]
        exact ⟨rfl, rfl⟩
    have herase : ∀ s ∈ w.registry.erase r, s ∈ w.registry ∧ s ≠ r := by
      intro s hs
      have hs := (hw.nodup.mem_erase_iff).mp hs
      exact ⟨hs.2, hs.1⟩
    -- Who has a registration now had it before, or is this call.
    have htook : ∀ t' s, (update w.closer t (.waiting r) t').taken = some s →
        (t' = t ∧ s = r) ∨ ((w.closer t').taken = some s ∧ s ≠ r) := by
      intro t' s hs
      by_cases heq : t' = t
      · subst heq
        rw [update_self] at hs
        exact Or.inl ⟨rfl, (Option.some.inj hs).symm⟩
      · rw [update_of_ne heq] at hs
        refine Or.inr ⟨hs, ?_⟩
        rintro rfl
        exact hw.not_taken hr hs
    refine ⟨fun s => ?_, fun s hs => ?_, hw.nodup.erase r, fun s hs => hw.made s (herase s hs).1,
      fun s hs => ?_, fun s hs => ?_, fun t' s hs => ?_, fun t' s hs => ?_, fun t' t'' s hs hs' => ?_,
      fun t' s hs => ?_⟩
    · exact (hw.counted s).trans (congrArg Nat.cast (hkeep s).2.symm)
    · have hne : s ≠ r := fun heq => absurd (hw.made r hr) (Nat.not_lt.mpr (heq ▸ hs))
      exact (hother s hne).trans (hw.unmade s hs)
    · obtain ⟨hs, hne⟩ := herase s hs
      show (registration s).closing = false
      rw [hother s hne]
      exact hw.opened s hs
    · show w.heap (registration s).runtime = some s
      rw [(hkeep s).1]
      exact hw.standing s (herase s hs).1
    · show s < w.created ∧ (registration s).closing = true
      rcases htook t' s hs with ⟨-, rfl⟩ | ⟨hs, hne⟩
      · rw [hself]
        exact ⟨hw.made s hr, rfl⟩
      · rw [hother s hne]
        exact hw.taken t' s hs
    · show w.heap (registration s).runtime = some s
      have hs : update w.closer t (.waiting r) t' = .waiting s ∨
          update w.closer t (.waiting r) t' = .closed s := hs
      rw [(hkeep s).1]
      by_cases heq : t' = t
      · subst heq
        rw [update_self] at hs
        rcases hs with hs | hs
        · cases hs
          exact hw.standing r hr
        · cases hs
      · rw [update_of_ne heq] at hs
        exact hw.kept t' s hs
    · rcases htook t' s hs with ⟨rfl, rfl⟩ | ⟨hs, hne⟩
      · rcases htook t'' s hs' with ⟨rfl, -⟩ | ⟨-, hne⟩
        · rfl
        · exact absurd rfl hne
      · rcases htook t'' s hs' with ⟨-, rfl⟩ | ⟨hs', -⟩
        · exact absurd rfl hne
        · exact hw.unique t' t'' s hs hs'
    · show (registration s).activeOperations = 0
      have hs : (update w.closer t (.waiting r) t').HasClosed s := hs
      rw [(hkeep s).2]
      by_cases heq : t' = t
      · subst heq
        rw [update_self] at hs
        rcases hs with hs | hs
        · cases hs
        · cases hs
      · rw [update_of_ne heq] at hs
        exact hw.drained t' s hs

theorem Leased.closeReturns (hphase : w.closer t = .waiting r)
    (hidle : (w.registration r).activeOperations = 0) :
    Leased { w with closer := update w.closer t (.closed r) } := by
  refine hw.rephase (fun s hs => ?_) (fun s hs => ?_) fun s hs => ?_
  · rw [hphase]
    exact hs
  · rcases hs with hs | hs
    · cases hs
    · cases hs
      exact Or.inl hphase
  · rcases hs with hs | hs
    · cases hs
      exact hidle
    · cases hs

/-- Deleting frees the address of the registration the call took, and of no other. -/
theorem Leased.deleteRuntime (hphase : w.closer t = .closed r) : Leased { w with
      heap := update w.heap (w.registration r).runtime none
      closer := update w.closer t (.deleted r) } := by
  have htaken : (w.closer t).taken = some r := congrArg ClosePhase.taken hphase
  have hdeleted : Leased { w with closer := update w.closer t (.deleted r) } := by
    refine hw.rephase (fun s hs => htaken.trans hs) (fun s hs => ?_) fun s hs => ?_
    · rcases hs with hs | hs
      · cases hs
      · cases hs
    · rcases hs with hs | hs
      · cases hs
      · cases hs
        exact hw.drained t r (Or.inl hphase)
  have hheap : ∀ s, s ≠ r → w.heap (w.registration s).runtime = some s →
      update w.heap (w.registration r).runtime none (w.registration s).runtime =
        some s := by
    intro s hne hs
    rw [update_of_ne, hs]
    intro heq
    rw [heq, hw.kept t r (Or.inr hphase)] at hs
    exact hne (Option.some.inj hs).symm
  refine { hdeleted with
    standing := fun s hs => hheap s ?_ (hw.standing s hs)
    kept := fun t' s hs => hheap s ?_ (hdeleted.kept t' s hs) }
  · rintro rfl
    exact hw.not_taken hs htaken
  · rintro rfl
    have hother : (update w.closer t (.deleted s) t').taken = some s := by
      rcases hs with hs | hs
      · exact congrArg ClosePhase.taken hs
      · exact congrArg ClosePhase.taken hs
    have heq : t' = t := hdeleted.unique t' t s hother (by
      show (update w.closer t (.deleted s) t).taken = some s
      rw [update_self]
      rfl)
    subst heq
    have hs : update w.closer t' (.deleted s) t' = .waiting s ∨
        update w.closer t' (.deleted s) t' = .closed s := hs
    rw [update_self] at hs
    rcases hs with hs | hs
    · cases hs
    · cases hs

end Calls

end

variable [DecidableEq η] [DecidableEq κ]

theorem Leased.step (hw : Leased w) {action : LeaseAction η κ}
    (hstep : leaseStep w action = some w') : Leased w' := by
  cases action with
  | createRuntime address =>
    simp only [leaseStep, Option.ite_none_right_eq_some, Option.some.injEq] at hstep
    obtain ⟨⟨-, hfree⟩, rfl⟩ := hstep
    exact hw.createRuntime hfree
  | acquireOperation handle runtime =>
    simp only [leaseStep, Option.ite_none_right_eq_some, Option.some.injEq] at hstep
    obtain ⟨hempty, rfl⟩ := hstep
    exact hw.acquireOperation runtime hempty
  | pinRefreshes handles =>
    simp only [leaseStep, Option.ite_none_right_eq_some, Option.some.injEq] at hstep
    obtain ⟨⟨hlength, hnodup, hempty⟩, rfl⟩ := hstep
    exact hw.pinRefreshes hnodup hlength hempty
  | releaseOperation handle =>
    obtain rfl := Option.some.inj hstep
    exact hw.releaseOperation handle
  | moveLease source destination =>
    simp only [leaseStep, Option.ite_none_right_eq_some, Option.some.injEq] at hstep
    obtain ⟨⟨hne, hempty⟩, rfl⟩ := hstep
    exact hw.moveLease hne hempty
  | closeRuntime call runtime =>
    simp only [leaseStep, Option.ite_none_right_eq_some, Option.some.injEq] at hstep
    obtain ⟨hidle, rfl⟩ := hstep
    exact hw.closeRuntime runtime hidle
  | closeReturns call =>
    cases hphase : w.closer call with
    | waiting r =>
      simp only [leaseStep, hphase, Option.ite_none_right_eq_some, Option.some.injEq] at hstep
      obtain ⟨hidle, rfl⟩ := hstep
      exact hw.closeReturns hphase hidle
    | _ => simp only [leaseStep, hphase, reduceCtorEq] at hstep
  | deleteRuntime call =>
    cases hphase : w.closer call with
    | closed r =>
      simp only [leaseStep, hphase, Option.some.injEq] at hstep
      subst hstep
      exact hw.deleteRuntime hphase
    | _ => simp only [leaseStep, hphase, reduceCtorEq] at hstep

omit [DecidableEq κ] in
theorem acquireOperation_closer (runtime : Address) :
    (w.acquireOperation h runtime).closer = w.closer := by
  unfold LeaseWorld.acquireOperation
  split
  · rfl
  · split
    · rfl
    · rfl

omit [DecidableEq κ] in
theorem pins_closer (pins : List (ℕ × η)) :
    (pins.foldl (fun w pin => w.grant pin.1 pin.2) w).closer = w.closer := by
  induction pins generalizing w with
  | nil => rfl
  | cons pin pins ih => exact ih

omit [DecidableEq κ] in
theorem releaseOperation_closer : (w.releaseOperation h).closer = w.closer := by
  unfold LeaseWorld.releaseOperation
  split
  · rfl
  · rfl

omit [DecidableEq η] in
/-- Another call moves on, or this one does and had not closed the registration before. -/
theorem hasClosed_update {phase : ClosePhase} {call : κ} (hclosed : (w.closer t).HasClosed r)
    (hphase : (w.closer call).HasClosed r → phase.HasClosed r) :
    (update w.closer call phase t).HasClosed r := by
  by_cases heq : t = call
  · subst heq
    rw [update_self]
    exact hphase hclosed
  · rwa [update_of_ne heq]

omit [DecidableEq η] [DecidableEq κ] in
theorem not_hasClosed {phase : ClosePhase} (hphase : w.closer t = phase)
    (hopen : phase = .idle ∨ ∃ s, phase = .waiting s) : ¬ (w.closer t).HasClosed r := by
  rw [hphase]
  rintro (hclosed | hclosed)
  · rcases hopen with rfl | ⟨s, rfl⟩
    · cases hclosed
    · cases hclosed
  · rcases hopen with rfl | ⟨s, rfl⟩
    · cases hclosed
    · cases hclosed

/-- A call that has closed a registration never gives it back. -/
theorem hasClosed_step {action : LeaseAction η κ} (hstep : leaseStep w action = some w')
    (hclosed : (w.closer t).HasClosed r) : (w'.closer t).HasClosed r := by
  cases action with
  | createRuntime address =>
    simp only [leaseStep, Option.ite_none_right_eq_some, Option.some.injEq] at hstep
    obtain ⟨-, rfl⟩ := hstep
    exact hclosed
  | acquireOperation handle runtime =>
    simp only [leaseStep, Option.ite_none_right_eq_some, Option.some.injEq] at hstep
    obtain ⟨-, rfl⟩ := hstep
    rwa [acquireOperation_closer]
  | pinRefreshes handles =>
    simp only [leaseStep, Option.ite_none_right_eq_some, Option.some.injEq] at hstep
    obtain ⟨-, rfl⟩ := hstep
    rwa [LeaseWorld.pinRefreshes, pins_closer]
  | releaseOperation handle =>
    obtain rfl := Option.some.inj hstep
    rwa [releaseOperation_closer]
  | moveLease source destination =>
    simp only [leaseStep, Option.ite_none_right_eq_some, Option.some.injEq] at hstep
    obtain ⟨-, rfl⟩ := hstep
    exact hclosed
  | closeRuntime call runtime =>
    simp only [leaseStep, Option.ite_none_right_eq_some, Option.some.injEq] at hstep
    obtain ⟨hidle, rfl⟩ := hstep
    have hopen : ¬ (w.closer call).HasClosed r := not_hasClosed hidle (Or.inl rfl)
    unfold LeaseWorld.closeRuntime
    split
    · exact hasClosed_update hclosed fun hbefore => absurd hbefore hopen
    · exact hasClosed_update hclosed fun hbefore => absurd hbefore hopen
  | closeReturns call =>
    cases hphase : w.closer call with
    | waiting s =>
      simp only [leaseStep, hphase, Option.ite_none_right_eq_some, Option.some.injEq] at hstep
      obtain ⟨-, rfl⟩ := hstep
      have hopen : ¬ (w.closer call).HasClosed r := not_hasClosed hphase (Or.inr ⟨s, rfl⟩)
      exact hasClosed_update hclosed fun hbefore => absurd hbefore hopen
    | _ => simp only [leaseStep, hphase, reduceCtorEq] at hstep
  | deleteRuntime call =>
    cases hphase : w.closer call with
    | closed s =>
      simp only [leaseStep, hphase, Option.some.injEq] at hstep
      subst hstep
      refine hasClosed_update hclosed fun hbefore => ?_
      rw [hphase] at hbefore
      rcases hbefore with heq | heq
      · cases heq
        exact Or.inr rfl
      · cases heq
    | _ => simp only [leaseStep, hphase, reduceCtorEq] at hstep

/-! ## Every run -/

theorem leased_run {schedule : List (LeaseAction η κ)} (hw : Leased w)
    (hrun : run leaseStep w schedule = some w') : Leased w' :=
  run_invariant (I := Leased) (fun _ _ _ hw hstep => hw.step hstep) hw hrun

/-- Once `CloseRuntime` has returned a registration, no lease refers to it, ever. -/
theorem closed_run {schedule : List (LeaseAction η κ)} (hw : Leased w)
    (hclosed : (w.closer t).HasClosed r) (hrun : run leaseStep w schedule = some w') (h : η) :
    w'.lease h ≠ some r := by
  have hinv : Leased w' ∧ (w'.closer t).HasClosed r :=
    run_invariant (I := fun v => Leased v ∧ (v.closer t).HasClosed r)
      (fun _ _ _ hv hstep => ⟨hv.1.step hstep, hasClosed_step hstep hv.2⟩) ⟨hw, hclosed⟩ hrun
  intro hlease
  exact hinv.1.leased hlease (hinv.1.drained t r hinv.2)

end Invariant

/-- Whatever the handles and the calls do, every count is the number of leases and is not zero where
one is released, a registration that `CloseRuntime` has returned is never leased again, no two calls
take the same registration, and a call deletes the runtime of the registration it took. -/
theorem closing_drains_operations {η κ : Type} [DecidableEq η] [DecidableEq κ]
    (schedule : List (LeaseAction η κ)) (w : LeaseWorld η κ)
    (hrun : run leaseStep {} schedule = some w) :
    (∀ r, census (fun lease => lease = some r) w.lease =
        ((w.registration r).activeOperations : ℕ∞)) ∧
      (∀ h r, w.lease h = some r → (w.registration r).activeOperations ≠ 0) ∧
      (∀ t r, (w.closer t).HasClosed r → ∀ more w', run leaseStep w more = some w' →
        ∀ h, w'.lease h ≠ some r) ∧
      (∀ t t' r, (w.closer t).taken = some r → (w.closer t').taken = some r → t = t') ∧
      ∀ t r, w.closer t = .closed r → w.heap (w.registration r).runtime = some r := by
  have hw : Leased w := leased_run Leased.initial hrun
  refine ⟨hw.counted, fun h r => hw.leased, fun t r hclosed more w' hmore h => ?_, hw.unique,
    fun t r hclosed => hw.kept t r (Or.inr hclosed)⟩
  exact closed_run hw hclosed hmore h

/-- An operation holds off the close; the address is used again, and a second destroy of it takes
the new registration. -/
def closeAndReuse : List (LeaseAction Bool Bool) :=
  [.createRuntime 0x1000, .acquireOperation true 0x1000, .closeRuntime true 0x1000,
    .moveLease true false, .acquireOperation true 0x1000, .releaseOperation false,
    .closeReturns true, .deleteRuntime true, .createRuntime 0x1000, .pinRefreshes [true],
    .closeRuntime false 0x1000]

theorem closing_drains_operations_reused :
    ∃ w : LeaseWorld Bool Bool, run leaseStep {} closeAndReuse = some w ∧
      w.lease true = some 1 ∧ w.closer false = .waiting 1 ∧
      ∀ more w', run leaseStep w more = some w' → ∀ h, w'.lease h ≠ some 0 := by
  refine ⟨_, rfl, rfl, rfl, ?_⟩
  obtain ⟨-, -, hclosed, -⟩ := closing_drains_operations closeAndReuse _ rfl
  exact hclosed true 0 (Or.inr rfl)

end DartPlant
