import DartPlant.Core.Status
import DartPlant.Lib.Runs
import DartPlant.Lib.Tiling

/-! # The module refresh worker

Loader callbacks only hand out an epoch; one worker thread enumerates the modules and refreshes the
runtimes, once for all epochs handed out since its last pass, and records each pass as an interval of
epochs.  A waiter returns what the pass that covers its epoch reported.

An access of the atomic epoch and a critical section of the worker's mutex are one step each.  An
`atomic::wait` compares, goes to sleep when the value is the old one, and compares again when it is
woken, also spuriously.  `passes` is the history of all passes, each with the number of epochs handed
out when its enumeration began; the code keeps only the last results.  Epochs stay below `2 ^ 64`.
-/

namespace DartPlant
open Runs Tiling List

structure RefreshResult where
  firstEpoch : ℕ
  lastEpoch : ℕ
  status : DartPlantStatus
  deriving DecidableEq, Repr

structure RefreshPass where
  result : RefreshResult
  handedOut : ℕ
  deriving DecidableEq, Repr

open RefreshPass

def RefreshPass.firstEpoch (pass : RefreshPass) : ℕ := pass.result.firstEpoch

def RefreshPass.lastEpoch (pass : RefreshPass) : ℕ := pass.result.lastEpoch

/-- Where the worker is, with its `processed_epoch` and the epoch it loaded. -/
inductive WorkerPhase where
  | notStarted
  | comparing (processed : ℕ)
  | asleep (processed : ℕ)
  | woken (processed : ℕ)
  | loaded (processed epoch : ℕ)
  | enumerated (processed epoch handedOut : ℕ)
  | recorded (epoch : ℕ)
  deriving DecidableEq, Repr

/-- A caller of `ScheduleRuntimeModuleRefresh` between its increment and its notification. -/
inductive SchedulePhase where
  | idle
  | scheduled (epoch : ℕ)
  deriving DecidableEq, Repr

structure RuntimeRefreshWorkerState (κ : Type) where
  requestedEpoch : ℕ := 0
  completedEpoch : ℕ := 0
  results : List RefreshResult := []
  worker : WorkerPhase := .notStarted
  caller : κ → SchedulePhase := fun _ => .idle
  passes : List RefreshPass := []

/-- The results kept. -/
def kRefreshResultCount : ℕ := 64

/-- What a pass reports: the first refresh that fails. -/
def passStatus (refreshes : List DartPlantStatus) : DartPlantStatus :=
  (refreshes.find? fun status => status != .ok).getD .ok

inductive RefreshAction (κ : Type) where
  | startWorker
  | schedule (caller : κ)
  | notifyOne (caller : κ)
  | compare
  | wakeSpuriously
  | loadEpoch
  | enumerateModules
  | recordResult (refreshes : List DartPlantStatus)
  | loop

section Step
variable {κ : Type}

namespace RuntimeRefreshWorkerState
variable (w : RuntimeRefreshWorkerState κ)

/-- The deque after one more result. -/
def pushResult (result : RefreshResult) : List RefreshResult :=
  let results := w.results ++ [result]
  if results.length > kRefreshResultCount then results.tail else results

/-- The critical section that ends a pass. -/
def recordResult (processed epoch handedOut : ℕ) (refreshes : List DartPlantStatus) :
    RuntimeRefreshWorkerState κ :=
  let result : RefreshResult :=
    { firstEpoch := processed + 1, lastEpoch := epoch, status := passStatus refreshes }
  { w with
    completedEpoch := epoch
    results := w.pushResult result
    worker := .recorded epoch
    passes := w.passes ++ [{ result, handedOut }] }

/-- The lookup of `WaitForRuntimeModuleRefresh`, a `lower_bound` by the last epochs. -/
def findResult (results : List RefreshResult) (epoch : ℕ) : DartPlantStatus :=
  match results with
  | [] => .runtimeNotReady
  | front :: _ =>
    if epoch < front.firstEpoch then .runtimeNotReady
    else
      match results.find? fun result => !decide (result.lastEpoch < epoch) with
      | none => .runtimeNotReady
      | some result => if epoch < result.firstEpoch then .runtimeNotReady else result.status

/-- What `WaitForRuntimeModuleRefresh` can return now; `none` while it has to wait. -/
def waitForRuntimeModuleRefresh (epoch : ℕ) : Option DartPlantStatus :=
  if epoch = 0 then some .ok
  else if w.completedEpoch ≥ epoch then some (findResult w.results epoch)
  else none

end RuntimeRefreshWorkerState

variable [DecidableEq κ]

/-- One step; `none` when it cannot be taken now. -/
def refreshStep (w : RuntimeRefreshWorkerState κ) :
    RefreshAction κ → Option (RuntimeRefreshWorkerState κ)
  | .startWorker =>
    if w.worker = .notStarted then some { w with worker := .comparing 0 } else some w
  | .schedule k =>
    if w.worker = .notStarted then some w
    else if w.caller k = .idle ∧ w.requestedEpoch + 1 < 2 ^ 64 then
      some { w with
        requestedEpoch := w.requestedEpoch + 1
        caller := Function.update w.caller k (.scheduled (w.requestedEpoch + 1)) }
    else none
  | .notifyOne k =>
    match w.caller k with
    | .idle => none
    | .scheduled _ =>
      let notified := { w with caller := Function.update w.caller k .idle }
      match w.worker with
      | .asleep processed => some { notified with worker := .comparing processed }
      | _ => some notified
  | .compare =>
    match w.worker with
    | .comparing processed =>
      if w.requestedEpoch = processed then some { w with worker := .asleep processed }
      else some { w with worker := .woken processed }
    | _ => none
  | .wakeSpuriously =>
    match w.worker with
    | .asleep processed => some { w with worker := .comparing processed }
    | _ => none
  | .loadEpoch =>
    match w.worker with
    | .woken processed => some { w with worker := .loaded processed w.requestedEpoch }
    | _ => none
  | .enumerateModules =>
    match w.worker with
    | .loaded processed epoch =>
      some { w with worker := .enumerated processed epoch w.requestedEpoch }
    | _ => none
  | .recordResult refreshes =>
    match w.worker with
    | .enumerated processed epoch handedOut =>
      some (w.recordResult processed epoch handedOut refreshes)
    | _ => none
  | .loop =>
    match w.worker with
    | .recorded epoch => some { w with worker := .comparing epoch }
    | _ => none

end Step

/-! ## The invariant -/

section Invariant
variable {κ : Type}

/-- What the worker knows of the epochs at each point of its loop. -/
def WorkerPhase.Knows (completed requested : ℕ) : WorkerPhase → Prop
  | notStarted => completed = 0 ∧ requested = 0
  | comparing processed => completed = processed
  | asleep processed => completed = processed
  | woken processed => completed = processed ∧ processed < requested
  | loaded processed epoch => completed = processed ∧ processed < epoch ∧ epoch ≤ requested
  | enumerated processed epoch handedOut =>
    completed = processed ∧ processed < epoch ∧ epoch ≤ handedOut ∧ handedOut ≤ requested
  | recorded epoch => completed = epoch

/-- Some caller has still to notify. -/
def Notifying (w : RuntimeRefreshWorkerState κ) : Prop := ∃ k epoch, w.caller k = .scheduled epoch

structure RefreshTiled (w : RuntimeRefreshWorkerState κ) : Prop where
  tiles : Tiles firstEpoch lastEpoch 0 w.passes w.completedEpoch
  kept : w.results = (w.passes.map result).drop (w.passes.length - kRefreshResultCount)
  bounded : w.completedEpoch ≤ w.requestedEpoch
  handedOut : ∀ pass ∈ w.passes, pass.lastEpoch ≤ pass.handedOut
  knows : w.worker.Knows w.completedEpoch w.requestedEpoch
  /-- A sleeping worker that has something to do is about to be notified. -/
  notified : ∀ processed, w.worker = .asleep processed → processed ≠ w.requestedEpoch → Notifying w

theorem RefreshTiled.initial : RefreshTiled ({} : RuntimeRefreshWorkerState κ) where
  tiles := rfl
  kept := rfl
  bounded := Nat.le_refl 0
  handedOut := fun _ h => absurd h not_mem_nil
  knows := ⟨rfl, rfl⟩
  notified := fun _ h => nomatch h

variable {w w' : RuntimeRefreshWorkerState κ} {processed epoch handedOut : ℕ}

/-- A step of the worker that records nothing. -/
theorem RefreshTiled.proceed (h : RefreshTiled w) {phase : WorkerPhase}
    (hknows : phase.Knows w.completedEpoch w.requestedEpoch)
    (hasleep : ∀ processed, phase = .asleep processed → processed = w.requestedEpoch) :
    RefreshTiled { w with worker := phase } :=
  { h with
    knows := hknows
    notified := fun processed heq hne => absurd (hasleep processed heq) hne }

theorem pushResult_kept (h : RefreshTiled w) (pass : RefreshPass) :
    w.pushResult pass.result = ((w.passes ++ [pass]).map result).drop
      ((w.passes ++ [pass]).length - kRefreshResultCount) := by
  unfold RuntimeRefreshWorkerState.pushResult
  have hlength : w.results.length = min w.passes.length kRefreshResultCount := by
    rw [h.kept, length_drop, length_map]
    omega
  simp only [length_append, length_singleton, hlength, map_append, map_cons,
    map_nil]
  split
  next hfull =>
    have hsome : w.passes.length + 1 - kRefreshResultCount =
        (w.passes.length - kRefreshResultCount) + 1 := by omega
    have hle : w.passes.length - kRefreshResultCount ≤
        (w.passes.map result).length := by
      rw [length_map]
      omega
    rw [hsome, ← tail_drop, drop_append_of_le_length hle, ← h.kept]
  next hroom =>
    have hnone : w.passes.length + 1 - kRefreshResultCount = 0 := by omega
    have hzero : w.passes.length - kRefreshResultCount = 0 := by omega
    rw [hnone, drop_zero, h.kept, hzero, drop_zero]

theorem RefreshTiled.recordResult (h : RefreshTiled w)
    (hworker : w.worker = .enumerated processed epoch handedOut)
    (refreshes : List DartPlantStatus) :
    RefreshTiled (w.recordResult processed epoch handedOut refreshes) := by
  have hknows := h.knows
  rw [hworker] at hknows
  obtain ⟨hcompleted, hlt, hepoch, hrequested⟩ := hknows
  let pass : RefreshPass :=
    { result := { firstEpoch := processed + 1, lastEpoch := epoch, status := passStatus refreshes }
      handedOut }
  have hfirst : pass.firstEpoch = w.completedEpoch + 1 := by
    rw [hcompleted]
    rfl
  refine ⟨h.tiles.concat (x := pass) hfirst hlt, pushResult_kept h pass,
    Nat.le_trans hepoch hrequested, fun other hother => ?_, rfl, fun _ heq => nomatch heq⟩
  rcases mem_append.mp hother with hother | hother
  · exact h.handedOut other hother
  · rw [mem_singleton.mp hother]
    exact hepoch

variable [DecidableEq κ] {k : κ}

section
variable (h : RefreshTiled w)
include h

theorem RefreshTiled.schedule (hstarted : w.worker ≠ .notStarted) : RefreshTiled { w with
      requestedEpoch := w.requestedEpoch + 1
      caller := Function.update w.caller k (.scheduled (w.requestedEpoch + 1)) } := by
  refine { h with
    bounded := Nat.le_succ_of_le h.bounded
    knows := ?_
    notified := fun _ _ _ => ⟨k, w.requestedEpoch + 1, Function.update_self _ _ _⟩ }
  have hknows := h.knows
  show w.worker.Knows w.completedEpoch (w.requestedEpoch + 1)
  cases hworker : w.worker with
  | notStarted => exact absurd hworker hstarted
  | comparing processed => rwa [hworker] at hknows
  | asleep processed => rwa [hworker] at hknows
  | woken processed =>
    rw [hworker] at hknows
    exact ⟨hknows.1, Nat.lt_succ_of_lt hknows.2⟩
  | loaded processed epoch =>
    rw [hworker] at hknows
    exact ⟨hknows.1, hknows.2.1, Nat.le_succ_of_le hknows.2.2⟩
  | enumerated processed epoch handedOut =>
    rw [hworker] at hknows
    exact ⟨hknows.1, hknows.2.1, hknows.2.2.1, Nat.le_succ_of_le hknows.2.2.2⟩
  | recorded epoch => rwa [hworker] at hknows

/-- A notification wakes the worker when it sleeps. -/
theorem RefreshTiled.notifyOne
    (hstep : refreshStep w (.notifyOne k) = some w') : RefreshTiled w' := by
  cases hcaller : w.caller k with
  | idle => simp only [refreshStep, hcaller, reduceCtorEq] at hstep
  | scheduled epoch =>
    have hrest : ∀ phase, phase.Knows w.completedEpoch w.requestedEpoch →
        (∀ processed, phase ≠ .asleep processed) →
        RefreshTiled { w with worker := phase, caller := Function.update w.caller k .idle } := by
      intro phase hknows hawake
      exact { h with
        knows := hknows
        notified := fun processed heq => absurd heq (hawake processed) }
    have hknows := h.knows
    cases hworker : w.worker with
    | asleep processed =>
      simp only [refreshStep, hcaller, hworker, Option.some.injEq] at hstep
      subst hstep
      rw [hworker] at hknows
      exact hrest (.comparing processed) hknows nofun
    | _ =>
      simp only [refreshStep, hcaller, hworker, Option.some.injEq] at hstep
      subst hstep
      rw [hworker] at hknows
      exact hrest _ hknows nofun

theorem RefreshTiled.step {action : RefreshAction κ}
    (hstep : refreshStep w action = some w') : RefreshTiled w' := by
  have hknows := h.knows
  cases action with
  | startWorker =>
    simp only [refreshStep] at hstep
    split at hstep
    next hworker =>
      obtain rfl := Option.some.inj hstep
      rw [hworker] at hknows
      exact h.proceed hknows.1 nofun
    next =>
      obtain rfl := Option.some.inj hstep
      exact h
  | schedule k =>
    simp only [refreshStep] at hstep
    split at hstep
    next =>
      obtain rfl := Option.some.inj hstep
      exact h
    next hstarted =>
      simp only [Option.ite_none_right_eq_some, Option.some.injEq] at hstep
      obtain ⟨-, rfl⟩ := hstep
      exact h.schedule hstarted
  | notifyOne k => exact h.notifyOne hstep
  | compare =>
    cases hworker : w.worker with
    | comparing processed =>
      rw [hworker] at hknows
      simp only [refreshStep, hworker] at hstep
      split at hstep
      next heq =>
        obtain rfl := Option.some.inj hstep
        refine h.proceed hknows fun other hother => ?_
        cases hother
        exact heq.symm
      next hne =>
        obtain rfl := Option.some.inj hstep
        have hbounded := h.bounded
        have hknows : w.completedEpoch = processed := hknows
        exact h.proceed ⟨hknows, by omega⟩ nofun
    | _ => simp only [refreshStep, hworker, reduceCtorEq] at hstep
  | wakeSpuriously =>
    cases hworker : w.worker with
    | asleep processed =>
      rw [hworker] at hknows
      simp only [refreshStep, hworker, Option.some.injEq] at hstep
      subst hstep
      exact h.proceed hknows nofun
    | _ => simp only [refreshStep, hworker, reduceCtorEq] at hstep
  | loadEpoch =>
    cases hworker : w.worker with
    | woken processed =>
      rw [hworker] at hknows
      simp only [refreshStep, hworker, Option.some.injEq] at hstep
      subst hstep
      exact h.proceed ⟨hknows.1, hknows.2, Nat.le_refl _⟩ nofun
    | _ => simp only [refreshStep, hworker, reduceCtorEq] at hstep
  | enumerateModules =>
    cases hworker : w.worker with
    | loaded processed epoch =>
      rw [hworker] at hknows
      simp only [refreshStep, hworker, Option.some.injEq] at hstep
      subst hstep
      exact h.proceed ⟨hknows.1, hknows.2.1, hknows.2.2, Nat.le_refl _⟩ nofun
    | _ => simp only [refreshStep, hworker, reduceCtorEq] at hstep
  | recordResult refreshes =>
    cases hworker : w.worker with
    | enumerated processed epoch handedOut =>
      simp only [refreshStep, hworker, Option.some.injEq] at hstep
      subst hstep
      exact h.recordResult hworker refreshes
    | _ => simp only [refreshStep, hworker, reduceCtorEq] at hstep
  | loop =>
    cases hworker : w.worker with
    | recorded epoch =>
      rw [hworker] at hknows
      simp only [refreshStep, hworker, Option.some.injEq] at hstep
      subst hstep
      exact h.proceed hknows nofun
    | _ => simp only [refreshStep, hworker, reduceCtorEq] at hstep

theorem refreshTiled_run {schedule : List (RefreshAction κ)}
    (hrun : run refreshStep w schedule = some w') : RefreshTiled w' :=
  run_invariant (I := RefreshTiled) (fun _ _ _ h hstep => h.step hstep) h hrun

end

/-! ## Sleeping and waiting -/

omit [DecidableEq κ] in
theorem tiles_map {a b : ℕ} {passes : List RefreshPass}
    (h : Tiles firstEpoch lastEpoch a passes b) :
    Tiles RefreshResult.firstEpoch RefreshResult.lastEpoch a (passes.map result) b := by
  induction passes generalizing a with
  | nil => exact h
  | cons pass passes ih => exact ⟨h.1, h.2.1, ih h.2.2⟩

open RuntimeRefreshWorkerState in
theorem findResult_found {results : List RefreshResult} {result : RefreshResult} {c e completed : ℕ}
    (htiles : Tiles RefreshResult.firstEpoch RefreshResult.lastEpoch c results completed)
    (hlow : c < e)
    (hfind : (results.find? fun result => !decide (result.lastEpoch < e)) = some result)
    (hcovers : Covers RefreshResult.firstEpoch RefreshResult.lastEpoch e result) :
    findResult results e = result.status := by
  cases results with
  | nil => cases hfind
  | cons front results =>
    have hfront : ¬ e < front.firstEpoch := by
      have := htiles.1
      omega
    simp only [findResult, if_neg hfront, hfind, if_neg (Nat.not_lt.mpr hcovers.1)]

open RuntimeRefreshWorkerState in
theorem findResult_evicted {results : List RefreshResult} {c e completed : ℕ}
    (htiles : Tiles RefreshResult.firstEpoch RefreshResult.lastEpoch c results completed)
    (hlow : e ≤ c) : findResult results e = .runtimeNotReady := by
  cases results with
  | nil => rfl
  | cons front results =>
    have hfront : e < front.firstEpoch := by
      have := htiles.1
      omega
    simp only [findResult, if_pos hfront]

omit [DecidableEq κ] in
/-- A waiter gets the status of the pass that covers its epoch, or is told that its result is no
longer kept. -/
theorem RefreshTiled.wait (h : RefreshTiled w) {e : ℕ} {status : DartPlantStatus} (hpos : 0 < e)
    (hreturn : w.waitForRuntimeModuleRefresh e = some status) :
    ∃ pass ∈ w.passes, Covers firstEpoch lastEpoch e pass ∧
      e ≤ pass.handedOut ∧
      (pass.result ∈ w.results ∧ status = pass.result.status ∨
        pass.result ∉ w.results ∧ status = .runtimeNotReady) := by
  unfold RuntimeRefreshWorkerState.waitForRuntimeModuleRefresh at hreturn
  rw [if_neg (Nat.pos_iff_ne_zero.mp hpos)] at hreturn
  simp only [Option.ite_none_right_eq_some, Option.some.injEq] at hreturn
  obtain ⟨hcompleted, hstatus⟩ := hreturn
  -- The results are those of the last passes, which tile from `c` on.
  let last := w.passes.drop (w.passes.length - kRefreshResultCount)
  have hlast : w.results = last.map result := by
    rw [h.kept, map_drop]
  obtain ⟨c, -, htiles⟩ := h.tiles.drop (w.passes.length - kRefreshResultCount)
  have htiles : Tiles RefreshResult.firstEpoch RefreshResult.lastEpoch c w.results
      w.completedEpoch := by
    rw [hlast]
    exact tiles_map htiles
  obtain ⟨pass, hpass, hcovers⟩ : ∃ pass ∈ w.passes,
      Covers firstEpoch lastEpoch e pass := by
    obtain ⟨pass, hfind, hcovers⟩ := h.tiles.find hpos hcompleted
    exact ⟨pass, mem_of_find?_eq_some hfind, hcovers⟩
  by_cases hkept : c < e
  · obtain ⟨result, hfind, hresult⟩ := htiles.find hkept hcompleted
    have hmem := mem_of_find?_eq_some hfind
    rw [hlast] at hmem
    obtain ⟨found, hfound, rfl⟩ := mem_map.mp hmem
    have hfound := mem_of_mem_drop hfound
    refine ⟨found, hfound, hresult, Nat.le_trans hresult.2 (h.handedOut found hfound), Or.inl ?_⟩
    refine ⟨mem_of_find?_eq_some hfind, ?_⟩
    rw [← hstatus]
    exact findResult_found htiles hkept hfind hresult
  · refine ⟨pass, hpass, hcovers, Nat.le_trans hcovers.2 (h.handedOut pass hpass), Or.inr ⟨?_, ?_⟩⟩
    · intro hmem
      have hlow := (htiles.mem hmem).1
      have hcover : pass.result.firstEpoch ≤ e := hcovers.1
      omega
    · rw [← hstatus]
      exact findResult_evicted htiles (Nat.not_lt.mp hkept)

/-- The worker goes to sleep only when every epoch handed out is covered. -/
theorem RefreshTiled.fallsAsleep (h : RefreshTiled w) {action : RefreshAction κ}
    (hstep : refreshStep w action = some w') (hasleep : w'.worker = .asleep processed)
    (hawake : w.worker ≠ .asleep processed) : w.completedEpoch = w.requestedEpoch := by
  have hknows := h.knows
  cases action with
  | startWorker =>
    simp only [refreshStep] at hstep
    split at hstep
    · obtain rfl := Option.some.inj hstep
      cases hasleep
    · obtain rfl := Option.some.inj hstep
      exact absurd hasleep hawake
  | schedule k =>
    simp only [refreshStep] at hstep
    split at hstep
    · obtain rfl := Option.some.inj hstep
      exact absurd hasleep hawake
    · simp only [Option.ite_none_right_eq_some, Option.some.injEq] at hstep
      obtain ⟨-, rfl⟩ := hstep
      exact absurd hasleep hawake
  | notifyOne k =>
    cases hcaller : w.caller k with
    | idle => simp only [refreshStep, hcaller, reduceCtorEq] at hstep
    | scheduled epoch =>
      cases hworker : w.worker with
      | asleep other =>
        simp only [refreshStep, hcaller, hworker, Option.some.injEq] at hstep
        subst hstep
        cases hasleep
      | _ =>
        simp only [refreshStep, hcaller, hworker, Option.some.injEq] at hstep
        subst hstep
        cases hasleep
  | compare =>
    cases hworker : w.worker with
    | comparing other =>
      rw [hworker] at hknows
      simp only [refreshStep, hworker] at hstep
      split at hstep
      next heq => exact Eq.trans hknows heq.symm
      next =>
        obtain rfl := Option.some.inj hstep
        cases hasleep
    | _ => simp only [refreshStep, hworker, reduceCtorEq] at hstep
  | wakeSpuriously =>
    cases hworker : w.worker with
    | asleep other =>
      simp only [refreshStep, hworker, Option.some.injEq] at hstep
      subst hstep
      cases hasleep
    | _ => simp only [refreshStep, hworker, reduceCtorEq] at hstep
  | loadEpoch =>
    cases hworker : w.worker with
    | woken other =>
      simp only [refreshStep, hworker, Option.some.injEq] at hstep
      subst hstep
      cases hasleep
    | _ => simp only [refreshStep, hworker, reduceCtorEq] at hstep
  | enumerateModules =>
    cases hworker : w.worker with
    | loaded other epoch =>
      simp only [refreshStep, hworker, Option.some.injEq] at hstep
      subst hstep
      cases hasleep
    | _ => simp only [refreshStep, hworker, reduceCtorEq] at hstep
  | recordResult refreshes =>
    cases hworker : w.worker with
    | enumerated other epoch handedOut =>
      simp only [refreshStep, hworker, Option.some.injEq] at hstep
      subst hstep
      cases hasleep
    | _ => simp only [refreshStep, hworker, reduceCtorEq] at hstep
  | loop =>
    cases hworker : w.worker with
    | recorded epoch =>
      simp only [refreshStep, hworker, Option.some.injEq] at hstep
      subst hstep
      cases hasleep
    | _ => simp only [refreshStep, hworker, reduceCtorEq] at hstep

/-! ## Progress -/

/-- Without a new epoch, the worker and the callers that still have to notify can cover every epoch
handed out. -/
def Completes (w : RuntimeRefreshWorkerState κ) : Prop :=
  ∃ more w', run refreshStep w more = some w' ∧ w'.requestedEpoch = w.requestedEpoch ∧
    w'.completedEpoch = w.requestedEpoch

theorem completes_done (h : w.completedEpoch = w.requestedEpoch) : Completes w :=
  ⟨[], w, rfl, rfl, h⟩

theorem Completes.of_step {a : RefreshAction κ} (hstep : refreshStep w a = some w')
    (hrequested : w'.requestedEpoch = w.requestedEpoch) (h : Completes w') : Completes w := by
  obtain ⟨more, last, hrun, hlast, hcompleted⟩ := h
  refine ⟨a :: more, last, ?_, hlast.trans hrequested, hcompleted.trans hrequested⟩
  rw [run_cons, hstep]
  exact hrun

/-- A pass that loads the epoch now covers everything handed out. -/
theorem completes_woken (hworker : w.worker = .woken processed) : Completes w := by
  have hload : refreshStep w .loadEpoch =
      some { w with worker := .loaded processed w.requestedEpoch } := by
    simp only [refreshStep, hworker]
  refine Completes.of_step hload rfl ?_
  refine Completes.of_step (a := .enumerateModules) rfl rfl ?_
  exact Completes.of_step (a := .recordResult []) rfl rfl (completes_done rfl)

theorem completes_comparing (h : RefreshTiled w) (hworker : w.worker = .comparing processed) :
    Completes w := by
  by_cases heq : w.requestedEpoch = processed
  · have hknows := h.knows
    rw [hworker] at hknows
    exact completes_done (Eq.trans hknows heq.symm)
  · have hcompare : refreshStep w .compare = some { w with worker := .woken processed } := by
      simp only [refreshStep, hworker, if_neg heq]
    exact Completes.of_step hcompare rfl (completes_woken rfl)

theorem completes_recorded (h : RefreshTiled w) (hworker : w.worker = .recorded epoch) :
    Completes w := by
  have hloop : refreshStep w .loop = some { w with worker := .comparing epoch } := by
    simp only [refreshStep, hworker]
  exact Completes.of_step hloop rfl (completes_comparing (h.step hloop) rfl)

theorem completes_enumerated (h : RefreshTiled w)
    (hworker : w.worker = .enumerated processed epoch handedOut) : Completes w := by
  have hrecord : refreshStep w (.recordResult []) =
      some (w.recordResult processed epoch handedOut []) := by
    simp only [refreshStep, hworker]
  exact Completes.of_step hrecord rfl (completes_recorded (h.step hrecord) rfl)

theorem RefreshTiled.completes (h : RefreshTiled w) (hstarted : w.worker ≠ .notStarted) :
    Completes w := by
  cases hworker : w.worker with
  | notStarted => exact absurd hworker hstarted
  | comparing processed => exact completes_comparing h hworker
  | asleep processed =>
    by_cases heq : processed = w.requestedEpoch
    · have hknows := h.knows
      rw [hworker] at hknows
      exact completes_done (Eq.trans hknows heq)
    · obtain ⟨k, epoch, hcaller⟩ := h.notified processed hworker heq
      have hnotify : refreshStep w (.notifyOne k) = some { w with
          worker := .comparing processed
          caller := Function.update w.caller k .idle } := by
        simp only [refreshStep, hcaller, hworker]
      exact Completes.of_step hnotify rfl (completes_comparing (h.step hnotify) rfl)
  | woken processed => exact completes_woken hworker
  | loaded processed epoch =>
    have henumerate : refreshStep w .enumerateModules =
        some { w with worker := .enumerated processed epoch w.requestedEpoch } := by
      simp only [refreshStep, hworker]
    exact Completes.of_step henumerate rfl (completes_enumerated (h.step henumerate) rfl)
  | enumerated processed epoch handedOut => exact completes_enumerated h hworker
  | recorded epoch => exact completes_recorded h hworker

end Invariant

/-- Whatever the callers do, the passes tile the epochs up to the completed one and the results are
those of the last passes; an epoch handed out lies in exactly one pass as soon as it is completed,
and it can always be completed without a new one; a waiter gets the status of that pass, whose
enumeration began after its epoch was handed out, or is told that the result is not kept; and the
worker goes to sleep, and stays asleep with no notification due, only when nothing is uncovered. -/
theorem refreshes_tile_epochs {κ : Type} [DecidableEq κ] (schedule : List (RefreshAction κ))
    (w : RuntimeRefreshWorkerState κ) (hrun : run refreshStep {} schedule = some w) :
    Tiles firstEpoch lastEpoch 0 w.passes w.completedEpoch ∧
      w.results = (w.passes.map result).drop
        (w.passes.length - kRefreshResultCount) ∧
      (∀ e, 0 < e → e ≤ w.completedEpoch → ∃! i : ℕ, ∃ pass, w.passes[i]? = some pass ∧
        Covers firstEpoch lastEpoch e pass) ∧
      (w.worker ≠ .notStarted → ∃ more w', run refreshStep w more = some w' ∧
        w'.requestedEpoch = w.requestedEpoch ∧ w'.completedEpoch = w.requestedEpoch) ∧
      (∀ e status, 0 < e → w.waitForRuntimeModuleRefresh e = some status →
        ∃ pass ∈ w.passes, Covers firstEpoch lastEpoch e pass ∧
          e ≤ pass.handedOut ∧
          (pass.result ∈ w.results ∧ status = pass.result.status ∨
            pass.result ∉ w.results ∧ status = .runtimeNotReady)) ∧
      (∀ action w' processed, refreshStep w action = some w' → w'.worker = .asleep processed →
        w.worker ≠ .asleep processed → w.completedEpoch = w.requestedEpoch) ∧
      ∀ processed, w.worker = .asleep processed → w.completedEpoch ≠ w.requestedEpoch →
        ∃ k epoch, w.caller k = .scheduled epoch := by
  have h : RefreshTiled w := refreshTiled_run RefreshTiled.initial hrun
  refine ⟨h.tiles, h.kept, fun e hpos hle => h.tiles.existsUnique hpos hle, h.completes,
    fun e status hpos => h.wait hpos, fun action w' processed => h.fallsAsleep,
    fun processed hworker hne => ?_⟩
  have hknows := h.knows
  rw [hworker] at hknows
  refine h.notified processed hworker fun heq => hne ?_
  exact Eq.trans hknows heq

/-- An epoch handed out while the modules are enumerated falls to the next pass, and its caller
finds the worker awake. -/
def lateRequest : List (RefreshAction Bool) :=
  [.startWorker, .compare, .schedule true, .notifyOne true, .compare, .loadEpoch,
    .schedule false, .enumerateModules, .recordResult [.ok, .profileMismatch, .hookFailed],
    .notifyOne false, .loop, .compare, .loadEpoch, .enumerateModules, .recordResult []]

theorem refreshes_tile_epochs_late :
    ∃ w : RuntimeRefreshWorkerState Bool, run refreshStep {} lateRequest = some w ∧
      w.waitForRuntimeModuleRefresh 1 = some .profileMismatch ∧
      w.waitForRuntimeModuleRefresh 2 = some .ok ∧
      ∀ e status, 0 < e → w.waitForRuntimeModuleRefresh e = some status →
        ∃ pass ∈ w.passes, Covers firstEpoch lastEpoch e pass ∧
          e ≤ pass.handedOut ∧
          (pass.result ∈ w.results ∧ status = pass.result.status ∨
            pass.result ∉ w.results ∧ status = .runtimeNotReady) := by
  have hstatus : (run refreshStep {} lateRequest).map (fun w =>
      (w.waitForRuntimeModuleRefresh 1, w.waitForRuntimeModuleRefresh 2)) =
      some (some .profileMismatch, some .ok) := by decide +kernel
  obtain ⟨w, hrun, hw⟩ := Option.map_eq_some_iff.mp hstatus
  obtain ⟨hfirst, hsecond⟩ := Prod.mk.inj hw
  refine ⟨w, hrun, hfirst, hsecond, ?_⟩
  obtain ⟨-, -, -, -, hwait, -⟩ := refreshes_tile_epochs lateRequest w hrun
  exact hwait

/-! ## Answers -/

section Answers
variable {κ : Type} [DecidableEq κ] {w w' : RuntimeRefreshWorkerState κ}

/-- No pass is forgotten, and no result that is no longer kept comes back. -/
structure Later (w w' : RuntimeRefreshWorkerState κ) : Prop where
  completed : w.completedEpoch ≤ w'.completedEpoch
  passes : w.passes ⊆ w'.passes
  results : ∀ result ∈ w'.results, result ∈ w.results ∨ w.completedEpoch < result.firstEpoch

theorem RefreshTiled.later (h : RefreshTiled w) {action : RefreshAction κ}
    (hstep : refreshStep w action = some w') : Later w w' := by
  have hsame (hcompleted : w.completedEpoch = w'.completedEpoch) (hpasses : w.passes = w'.passes)
      (hresults : w.results = w'.results) : Later w w' :=
    ⟨hcompleted.le, fun _ h => hpasses ▸ h, fun _ h => Or.inl (hresults ▸ h)⟩
  cases action with
  | recordResult refreshes =>
    cases hworker : w.worker with
    | enumerated processed epoch handedOut =>
      have hknows := h.knows
      rw [hworker] at hknows
      obtain ⟨hcompleted, hlt, -⟩ := hknows
      simp only [refreshStep, hworker, Option.some.injEq] at hstep
      subst hstep
      refine ⟨hcompleted.trans_le hlt.le, subset_append_left .., fun result hresult => ?_⟩
      have hpushed : result ∈ w.results ++ [⟨processed + 1, epoch, passStatus refreshes⟩] := by
        simp only [RuntimeRefreshWorkerState.recordResult,
          RuntimeRefreshWorkerState.pushResult] at hresult
        split at hresult
        · exact mem_of_mem_tail hresult
        · exact hresult
      refine (mem_append.mp hpushed).imp_right fun hnew => ?_
      rw [mem_singleton.mp hnew]
      exact Nat.lt_succ_of_le hcompleted.le
    | _ => simp only [refreshStep, hworker, reduceCtorEq] at hstep
  | _ =>
    simp only [refreshStep] at hstep
    repeat' split at hstep
    all_goals cases hstep
    all_goals exact hsame rfl rfl rfl

end Answers

end DartPlant
