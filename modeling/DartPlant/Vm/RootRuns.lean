import DartPlant.Vm.RootSteps

/-! # Root slots and leases never alias

`proceed_spec` and `act_spec` say what a step of any caller does, and the rest follows along a run:
the owners stay exclusive, a call returns what was last pinned or set, and a pin or a retain that
fails has given back whatever it had claimed (`FailedCall`).
-/

namespace DartPlant
open Runs FlagOwners List Option

namespace RootTable

/-! ## What a call returns -/

/-- What an outcome says about the tables before and after the step. -/
def Returns (before after : RootTable) : RootOutcome → Prop
  | .pinned _ lease values => after.live lease = true ∧
    (after.leases lease).count = values.length ∧
    ∀ i raw, values[i]? = some raw → ∃ now, lastStored lease i after.history = some (raw, now)
  | .unpinned _ lease out => out.length = (before.leases lease).count ∧
    ∀ i raw, out[i]? = some raw → WasHeld lease i raw before.history
  | .got lease index raw =>
    ∃ given, lastStored lease index before.history = some (given, raw)
  | .set lease index raw => after.history = .stored lease index raw :: before.history
  | .retained _ _ | .released _ | .failed _ _ | .refused _ => True

/-- A step of a call. -/
structure ProceedSpec (s t : RootTable) (call : Nat) (out : Option RootOutcome) : Prop where
  sound : t.Sound
  nullRaw : t.nullRaw = s.nullRaw
  calls : ∀ other, other ≠ call → t.calls other = s.calls other ∧
    t.holds (.call other) = s.holds (.call other) ∧
    t.holdsLease (.call other) = s.holdsLease (.call other)
  /-- The others hold what they held, unless the call has been successful. -/
  others : (∀ o, o ≠ .call call → t.holds o = s.holds o ∧ t.holdsLease o = s.holdsLease o) ∨
    ∃ outcome, out = some outcome ∧ ∀ status, outcome ≠ .failed call status
  ends : out ≠ none → t.calls call = none
  returns : ∀ outcome, out = some outcome → s.Returns t outcome

section Proceed
variable {s t u : RootTable} {call : Nat} {outcome : RootOutcome}

theorem Keeps.goes {next : RootCall} (h : s.Keeps (u.setCall call next) call)
    (hcalls : u.calls = s.calls) : ProceedSpec s (u.setCall call next) call none where
  sound := h.sound
  nullRaw := h.nullRaw
  calls := by
    intro other hne
    have howner : RootOwner.call other ≠ .call call := fun heq => hne (RootOwner.call.inj heq)
    exact ⟨(Function.update_of_ne hne _ _).trans (congrFun hcalls other), h.holds _ howner,
      h.holdsLease _ howner⟩
  others := .inl fun o ho => ⟨h.holds o ho, h.holdsLease o ho⟩
  ends := fun hout => absurd rfl hout
  returns := nofun

theorem Keeps.ends (h : s.Keeps (u.finish call) call) (hcalls : u.calls = s.calls)
    (hreturns : s.Returns (u.finish call) outcome) :
    ProceedSpec s (u.finish call) call (some outcome) where
  sound := h.sound
  nullRaw := h.nullRaw
  calls := by
    intro other hne
    have howner : RootOwner.call other ≠ .call call := fun heq => hne (RootOwner.call.inj heq)
    exact ⟨(Function.update_of_ne hne _ _).trans (congrFun hcalls other), h.holds _ howner,
      h.holdsLease _ howner⟩
  others := .inl fun o ho => ⟨h.holds o ho, h.holdsLease o ho⟩
  ends := fun _ => finish_calls u call
  returns := by
    intro outcome' houtcome
    cases houtcome
    exact hreturns

/-- A call that has been successful leaves the other calls alone. -/
theorem Sound.succeeds (h : (u.finish call).Sound) (hcalls : u.calls = s.calls)
    (hleases : u.leases = s.leases) (hnull : u.nullRaw = s.nullRaw)
    (hsuccess : ∀ status, outcome ≠ .failed call status)
    (hreturns : s.Returns (u.finish call) outcome) :
    ProceedSpec s (u.finish call) call (some outcome) where
  sound := h
  nullRaw := hnull
  calls := by
    intro other hne
    have hcall : (u.finish call).calls other = s.calls other :=
      (Function.update_of_ne hne _ _).trans (congrFun hcalls other)
    have hleases' : (u.finish call).leases = s.leases := hleases
    simp only [holds, holdsLease, hcall, hleases', and_self]
  others := .inr ⟨outcome, rfl, hsuccess⟩
  ends := fun _ => finish_calls u call
  returns := by
    intro outcome' houtcome
    cases houtcome
    exact hreturns

variable (hs : s.Sound)
include hs

/-- `ReleaseRoot` returns. -/
theorem resume_spec {root : Nat} {user : ReleaseUser} {out : Option RootOutcome}
    (hphase : s.calls call = some (.free root user))
    (h : (s.setUsed root false).resume call user = (t, out)) : ProceedSpec s t call out := by
  have hproper : user.Proper s := (hs.content (.call call) _ hphase).2
  cases user with
  | unwind lease cursor =>
    cases h
    obtain ⟨hnext, hroots, hleases⟩ := unwindFrom_spec s lease cursor
    exact (hs.frees hphase hroots hleases hnext).goes rfl
  | unpin lease index out =>
    cases h
    obtain ⟨hnext, hroots, hleases⟩ := readFrom_spec (s := s) hproper
    exact (hs.frees hphase hroots hleases hnext).goes rfl
  | noLocal | object =>
    cases h
    exact (hs.freesLast hphase rfl rfl).ends rfl trivial
  | weak handle =>
    cases handle with
    | none | some =>
      cases h
      exact (hs.freesLast hphase rfl rfl).ends rfl trivial

/-- The last step of `RetainObject`, or the last but two for a weak handle. -/
theorem makeHandle_spec {strength : DartPlantObjectStrength} {root : Nat}
    {answered : Bool} {newHandle : Nat} {out : Option RootOutcome}
    (hphase : s.calls call = some (.makeHandle strength root))
    (h : s.proceed call answered newHandle (.makeHandle strength root) = some (t, out)) :
    ProceedSpec s t call out := by
  simp only [proceed] at h
  split at h
  next => cases h
  next hfresh =>
    rw [not_isSome_iff_eq_none] at hfresh
    cases strength with
    | strong =>
      cases h
      exact (hs.makesHandle hphase hfresh).succeeds rfl rfl rfl nofun trivial
    | weak =>
      simp only at h
      split at h
      next =>
        cases h
        have hbefore : ∀ root, s.handles newHandle ≠ some ⟨.strong, root⟩ := by
          intro root' h'
          rw [hfresh] at h'
          cases h'
        obtain ⟨hsound, hholds⟩ := hs.setsRootless (some { strength := .weak }) hbefore nofun
        have hkeeps := hsound.advance (.clear root (.weak (some newHandle))) hphase rfl rfl trivial
        refine Keeps.goes ⟨hkeeps.sound, fun o ho => ?_, hkeeps.holdsLease, hkeeps.nullRaw⟩ rfl
        rw [hkeeps.holds o ho, hholds]
      next =>
        cases h
        exact (hs.advance (.clear root (.weak none)) hphase rfl rfl trivial).goes rfl

/-- A step of a call, whatever it is at. -/
theorem proceed_spec {phase : RootCall} {answered : Bool} {newHandle : Nat}
    {out : Option RootOutcome} (hphase : s.calls call = some phase)
    (h : s.proceed call answered newHandle phase = some (t, out)) : ProceedSpec s t call out := by
  have hproper : phase.Proper s := hs.content (.call call) _ hphase
  cases phase with
  | claimLease values candidate =>
    simp only [proceed] at h
    split at h
    next =>
      split at h
      next =>
        cases h
        exact (hs.advance (.claimLease values (candidate + 1)) hphase rfl rfl hproper).goes rfl
      next hfree =>
        cases h
        exact (hs.claimsLease hphase (Bool.not_eq_true _ ▸ hfree)).goes rfl
    next =>
      cases h
      exact (hs.finish hphase rfl rfl).ends rfl trivial
  | resetLease values lease =>
    cases h
    exact (hs.resetsLease hphase).goes rfl
  | acquire cursor user =>
    simp only [proceed] at h
    split at h
    next hroot =>
      split at h
      next =>
        cases h
        exact (hs.advance (.acquire (cursor + 1) user) hphase rfl rfl hproper).goes rfl
      next hfree =>
        cases h
        exact (hs.claimsRoot hphase hroot (Bool.not_eq_true _ ▸ hfree)).goes rfl
    next =>
      cases user with
      | pin values lease index =>
        cases h
        obtain ⟨hnext, hroots, hleases⟩ := unwindFrom_spec s lease 0
        exact (hs.advance _ hphase hroots hleases hnext).goes rfl
      | retain raw strength =>
        cases h
        exact (hs.finish hphase rfl rfl).ends rfl trivial
  | pinRoot values lease index root =>
    cases h
    exact (hs.pinsRoot hphase).goes rfl
  | returnLease values lease =>
    cases h
    have hpinned : s.Pinned values lease values.length := hproper
    refine (hs.returnsLease hphase).succeeds rfl rfl rfl nofun ⟨?_, hpinned.count, fun i raw hi => ?_⟩
    · exact Function.update_self ..
    · obtain ⟨hlt, hraw⟩ := List.getElem?_eq_some_iff.mp hi
      have hstored := hpinned.stored i hlt
      rw [getD_eq_getElem?_getD, hi] at hstored
      exact ⟨_, hstored⟩
  | dropLease lease =>
    cases h
    exact (hs.closes hphase rfl rfl rfl).ends rfl trivial
  | clear root user =>
    have hroot : root < kRootSlotCount := by
      refine hs.bounded (.call call) root ?_
      rw [holds_call hphase]
      exact mem_cons_self
    simp only [proceed, hroot, if_true] at h
    cases h
    exact (hs.clears hphase).goes rfl
  | free root user =>
    simp only [proceed, Option.some.injEq] at h
    exact resume_spec hs hphase h
  | readRoot lease index out =>
    cases h
    exact (hs.readsRoot hphase).goes rfl
  | endUnpin lease out =>
    cases h
    have hunpin : s.Unpinning lease (s.leases lease).count out := hproper
    exact (hs.closes hphase rfl rfl rfl).ends rfl ⟨hunpin.length, hunpin.read⟩
  | retainRoot raw strength root =>
    cases h
    exact (hs.retainsRoot hphase).goes rfl
  | makeLocal strength root =>
    cases h
    refine Keeps.goes ?_ rfl
    split
    · exact hs.advance _ hphase rfl rfl trivial
    · exact hs.advance _ hphase rfl rfl trivial
  | makeHandle strength root => exact makeHandle_spec hs hphase h

end Proceed

/-! ## A step of anybody -/

section Act
variable {s t : RootTable} {action : RootAction} {out : Option RootOutcome}

/-- A call begins with nothing. -/
theorem Sound.begins (hs : s.Sound) {call : Nat} (hidle : s.calls call = none) (next : RootCall)
    (hroots : next.roots s.leases = []) (hleases : next.leases = []) (hproper : next.Proper s) :
    s.Keeps (s.setCall call next) call := by
  have hnext := setCall_calls s call next
  refine hs.quiet ((Moves.refl s (Alone call)).setCall rfl next) (fun _ => rfl) (fun _ => rfl) ?_ ?_
    (content_of_phase hnext (proper_setCall hproper call next))
  · rw [holds_call hnext, holds_idle hidle]
    exact hroots
  · rw [holdsLease_call hnext, holdsLease_idle hidle, hleases]

theorem act_spec (hs : s.Sound) (h : s.act action = some (t, out)) :
    t.Sound ∧ t.nullRaw = s.nullRaw ∧ ∀ outcome, out = some outcome → s.Returns t outcome := by
  cases action with
  | pin call identity values =>
    simp only [act, isSome_iff_ne_none, ne_eq, ite_not] at h
    split at h
    next hidle =>
      split at h
      next =>
        cases h
        exact ⟨hs, rfl, fun outcome heq => by cases heq; trivial⟩
      next hvalid =>
        cases h
        have hne : values ≠ [] := (not_or.mp hvalid).1
        exact ⟨(hs.begins hidle (.claimLease values 0) rfl rfl hne).sound, rfl, nofun⟩
    next => cases h
  | unpin call lease valueCount =>
    simp only [act] at h
    split at h
    next => cases h
    next hfree =>
      obtain ⟨hidle, hlive⟩ := not_or.mp hfree
      rw [not_isSome_iff_eq_none] at hidle
      rw [Bool.not_eq_false] at hlive
      split at h
      next =>
        cases h
        exact ⟨hs, rfl, fun outcome heq => by cases heq; trivial⟩
      next =>
        cases h
        exact ⟨hs.takesLease hidle hlive, rfl, nofun⟩
  | retain call raw strength =>
    simp only [act] at h
    split at h
    next => cases h
    next hidle =>
      rw [not_isSome_iff_eq_none] at hidle
      cases h
      exact ⟨(hs.begins hidle (.acquire 0 (.retain raw strength)) rfl rfl trivial).sound, rfl, nofun⟩
  | release call handle =>
    simp only [act] at h
    split at h
    next => cases h
    next hidle =>
      rw [not_isSome_iff_eq_none] at hidle
      split at h
      next => cases h
      next root hhandle =>
        cases h
        have hbefore : ∀ root', s.handles handle ≠ some ⟨.strong, root'⟩ := by
          intro root' h'
          rw [hhandle] at h'
          cases h'
        exact ⟨(hs.setsRootless none hbefore nofun).1, rfl,
          fun outcome heq => by cases heq; trivial⟩
      next root hhandle =>
        cases h
        exact ⟨hs.takesHandle hidle hhandle, rfl, nofun⟩
  | get lease index =>
    simp only [act] at h
    split at h
    next => cases h
    next hlive =>
      rw [Bool.not_eq_false] at hlive
      split at h
      next =>
        cases h
        exact ⟨hs, rfl, fun outcome heq => by cases heq; trivial⟩
      next hvalid =>
        cases h
        have hindex : index < (s.leases lease).count :=
          Nat.lt_of_not_le fun hle => hvalid (.inr (.inr hle))
        refine ⟨hs, rfl, fun outcome heq => ?_⟩
        cases heq
        exact (hs.content (.lease lease) hlive).2 index hindex
  | set lease index raw =>
    simp only [act] at h
    split at h
    next => cases h
    next hlive =>
      rw [Bool.not_eq_false] at hlive
      split at h
      next =>
        cases h
        exact ⟨hs, rfl, fun outcome heq => by cases heq; trivial⟩
      next hvalid =>
        cases h
        have hindex : index < (s.leases lease).count :=
          Nat.lt_of_not_le fun hle => hvalid (.inr (.inr hle))
        refine ⟨hs.setsRoot hlive hindex raw, rfl, fun outcome heq => ?_⟩
        cases heq
        exact rfl
  | proceed call answered newHandle =>
    obtain ⟨phase, hphase, hstep⟩ := bind_eq_some_iff.mp h
    have hspec := proceed_spec hs hphase hstep
    exact ⟨hspec.sound, hspec.nullRaw, hspec.returns⟩
  | collect move =>
    simp only [act] at h
    split at h
    next hnull =>
      cases h
      exact ⟨hs.relocates hnull, rfl, nofun⟩
    next => cases h

theorem step_sound (hs : s.Sound) (h : s.step action = some t) :
    t.Sound ∧ t.nullRaw = s.nullRaw := by
  obtain ⟨⟨t', out⟩, hact, rfl⟩ := map_eq_some_iff.mp h
  obtain ⟨hsound, hnull, -⟩ := act_spec hs hact
  exact ⟨hsound, hnull⟩

/-- Every reachable table is sound. -/
theorem run_sound (hs : s.Sound) {actions : List RootAction} (h : run step s actions = some t) :
    t.Sound ∧ t.nullRaw = s.nullRaw := by
  have hstep : ∀ (u : RootTable) action (v : RootTable), u.Sound ∧ u.nullRaw = s.nullRaw →
      u.step action = some v → v.Sound ∧ v.nullRaw = s.nullRaw := by
    intro u action v hu hv
    obtain ⟨hsound, hnull⟩ := step_sound hu.1 hv
    exact ⟨hsound, hnull.trans hu.2⟩
  exact run_invariant hstep ⟨hs, rfl⟩ h

end Act

/-! ## Calls that fail -/

end RootTable

/-- The action is a step of the call. -/
def RootAction.IsBy (call : Nat) : RootAction → Prop
  | .pin call' _ _ | .unpin call' _ _ | .retain call' _ _ | .release call' _
  | .proceed call' _ _ => call' = call
  | .get _ _ | .set _ _ _ | .collect _ => False

/-- The action is the first step of the call. -/
def RootAction.Begins (call : Nat) : RootAction → Prop
  | .pin call' _ _ | .unpin call' _ _ | .retain call' _ _ | .release call' _ => call' = call
  | .proceed _ _ _ | .get _ _ | .set _ _ _ | .collect _ => False

/-- The call is a pin or a retain. -/
def RootAction.Asks (call : Nat) : RootAction → Prop
  | .pin call' _ _ | .retain call' _ _ => call' = call
  | _ => False

/-- The slots, and the leases. -/
inductive RootPool where
  | roots
  | leases
  deriving DecidableEq, Repr

namespace RootPool

def used : RootPool → RootTable → Nat → Bool
  | .roots, table, root => (table.roots root).used
  | .leases, table, lease => (table.leases lease).used

def holds : RootPool → RootTable → RootOwner → List Nat
  | .roots, table, o => table.holds o
  | .leases, table, o => table.holdsLease o

variable {pool : RootPool} {table : RootTable}

theorem exclusive (pool : RootPool) (h : table.Sound) :
    Exclusive (pool.used table) (pool.holds table) := by
  cases pool with
  | roots => exact h.roots
  | leases => exact h.leases

theorem holds_idle (pool : RootPool) {call : Nat} (h : table.calls call = none) :
    pool.holds table (.call call) = [] := by
  cases pool with
  | roots => exact RootTable.holds_idle h
  | leases => exact RootTable.holdsLease_idle h

end RootPool

namespace RootTable

/-- Along the schedule the steps of all others leave the flag as it is. -/
def OthersKeep (pool : RootPool) (index call : Nat) (table : RootTable)
    (actions : List RootAction) : Prop :=
  ∀ before action s t, before ++ [action] <+: actions → run step table before = some s →
    s.step action = some t → ¬ action.IsBy call → pool.used t index = pool.used s index

/-- The schedule goes from the first step of a pin or a retain to the step in which it fails. -/
structure FailedCall (table after : RootTable) (call : Nat) (actions : List RootAction) : Prop where
  first : ∃ first rest, actions = first :: rest ∧ first.Asks call ∧
    ∀ action ∈ rest, ¬ action.Begins call
  last : ∃ before last s status, actions = before ++ [last] ∧ run step table before = some s ∧
    last.IsBy call ∧ s.act last = some (after, some (.failed call status))

section Failures
variable {s t : RootTable} {action : RootAction} {call : Nat} {out : Option RootOutcome}

theorem call_holds_congr (pool : RootPool) (hcalls : t.calls call = s.calls call)
    (hleases : t.leases = s.leases) :
    pool.holds t (.call call) = pool.holds s (.call call) := by
  cases pool with
  | roots => simp only [RootPool.holds, holds, hcalls, hleases]
  | leases => simp only [RootPool.holds, holdsLease, hcalls]

/-- A step of another leaves the call and what it holds alone. -/
theorem act_other (hs : s.Sound) (h : s.act action = some (t, out)) (hother : ¬ action.IsBy call)
    (pool : RootPool) : t.calls call = s.calls call ∧
      pool.holds t (.call call) = pool.holds s (.call call) := by
  have hquiet : t.calls call = s.calls call → t.leases = s.leases →
      t.calls call = s.calls call ∧ pool.holds t (.call call) = pool.holds s (.call call) :=
    fun hcalls hleases => ⟨hcalls, call_holds_congr pool hcalls hleases⟩
  cases action with
  | pin call' identity values =>
    simp only [act] at h
    split at h
    next => cases h
    next =>
      split at h
      next =>
        cases h
        exact ⟨rfl, rfl⟩
      next =>
        cases h
        exact hquiet (Function.update_of_ne (Ne.symm hother) _ _) rfl
  | unpin call' lease valueCount =>
    simp only [act] at h
    split at h
    next => cases h
    next =>
      split at h
      next =>
        cases h
        exact ⟨rfl, rfl⟩
      next =>
        cases h
        exact hquiet (Function.update_of_ne (Ne.symm hother) _ _) rfl
  | retain call' raw strength =>
    simp only [act] at h
    split at h
    next => cases h
    next =>
      cases h
      exact hquiet (Function.update_of_ne (Ne.symm hother) _ _) rfl
  | release call' handle =>
    simp only [act] at h
    split at h
    next => cases h
    next =>
      split at h
      next => cases h
      next =>
        cases h
        exact hquiet rfl rfl
      next =>
        cases h
        exact hquiet (Function.update_of_ne (Ne.symm hother) _ _) rfl
  | get lease index =>
    simp only [act] at h
    split at h
    next => cases h
    next =>
      split at h
      · cases h
        exact ⟨rfl, rfl⟩
      · cases h
        exact ⟨rfl, rfl⟩
  | set lease index raw =>
    simp only [act] at h
    split at h
    next => cases h
    next =>
      split at h
      · cases h
        exact ⟨rfl, rfl⟩
      · cases h
        exact hquiet rfl rfl
  | proceed call' answered newHandle =>
    obtain ⟨phase, hphase, hstep⟩ := bind_eq_some_iff.mp h
    obtain ⟨hcalls, hholds, hholdsLease⟩ :=
      (proceed_spec hs hphase hstep).calls call (Ne.symm hother)
    cases pool with
    | roots => exact ⟨hcalls, hholds⟩
    | leases => exact ⟨hcalls, hholdsLease⟩
  | collect move =>
    simp only [act] at h
    split at h
    next =>
      cases h
      exact hquiet rfl rfl
    next => cases h

/-- While the call is under way, the flags at what it does not hold are as they were. -/
def Outside (pool : RootPool) (index call : Nat) (flag : Bool) (table : RootTable) : Prop :=
  ∀ phase, table.calls call = some phase →
    ((pool.used table index = true ∧ index ∉ pool.holds table (.call call)) ↔ flag = true)

theorem ProceedSpec.outside (pool : RootPool) (index : Nat) (hs : s.Sound)
    (h : ProceedSpec s t call out)
    (hothers : ∀ o, o ≠ .call call → t.holds o = s.holds o ∧ t.holdsLease o = s.holdsLease o) :
    (pool.used t index = true ∧ index ∉ pool.holds t (.call call)) ↔
      (pool.used s index = true ∧ index ∉ pool.holds s (.call call)) := by
  refine (pool.exclusive hs).others_keep (pool.exclusive h.sound) fun o ho => ?_
  cases pool with
  | roots => exact (hothers o ho).1
  | leases => exact (hothers o ho).2

/-- One step of anybody, until the call returns. -/
theorem outside_act {pool : RootPool} {index : Nat} {flag : Bool} (hs : s.Sound)
    (hout : Outside pool index call flag s) (h : s.act action = some (t, out))
    (hbegins : ¬ action.Begins call)
    (hkeep : ¬ action.IsBy call → pool.used t index = pool.used s index) :
    Outside pool index call flag t := by
  intro phase' hphase'
  by_cases hby : action.IsBy call
  · cases action with
    | pin | unpin | retain | release => exact absurd hby hbegins
    | get | set | collect => exact absurd hby id
    | proceed call' answered newHandle =>
      obtain rfl : call' = call := hby
      obtain ⟨phase, hphase, hstep⟩ := bind_eq_some_iff.mp h
      have hspec := proceed_spec hs hphase hstep
      have hnone : out = none := by
        by_contra hsome
        rw [hspec.ends hsome] at hphase'
        cases hphase'
      obtain hothers | ⟨outcome, hsome, -⟩ := hspec.others
      · exact (hspec.outside pool index hs hothers).trans (hout phase hphase)
      · rw [hnone] at hsome
        cases hsome
  · obtain ⟨hcalls, hholds⟩ := act_other hs h hby pool
    rw [hkeep hby, hholds]
    exact hout phase' (hcalls ▸ hphase')

/-- Asking takes nothing yet. -/
theorem asks_spec {first : RootAction} (hasks : first.Asks call) (h : s.act first = some (t, out)) :
    s.calls call = none ∧ (t = s ∨ (out = none ∧ ∀ pool : RootPool,
      pool.used t = pool.used s ∧ pool.holds t (.call call) = [])) := by
  have hclaim : ∀ (next : RootCall), next.roots s.leases = [] → next.leases = [] →
      ∀ pool : RootPool, pool.used (s.setCall call next) = pool.used s ∧
        pool.holds (s.setCall call next) (.call call) = [] := by
    intro next hroots hleases pool
    have hnext := setCall_calls s call next
    cases pool with
    | roots => exact ⟨rfl, (holds_call hnext).trans hroots⟩
    | leases => exact ⟨rfl, (holdsLease_call hnext).trans hleases⟩
  cases first with
  | pin call' identity values =>
    obtain rfl : call' = call := hasks
    simp only [act] at h
    split at h
    next => cases h
    next hidle =>
      refine ⟨not_isSome_iff_eq_none.mp hidle, ?_⟩
      split at h
      next =>
        cases h
        exact .inl rfl
      next =>
        cases h
        exact .inr ⟨rfl, hclaim (.claimLease values 0) rfl rfl⟩
  | retain call' raw strength =>
    obtain rfl : call' = call := hasks
    simp only [act] at h
    split at h
    next => cases h
    next hidle =>
      cases h
      exact ⟨not_isSome_iff_eq_none.mp hidle,
        .inr ⟨rfl, hclaim (.acquire 0 (.retain raw strength)) rfl rfl⟩⟩
  | unpin | release | get | set | proceed | collect => exact absurd hasks id

/-- From the first step of a call on, until it returns. -/
theorem outside_run {pool : RootPool} {index : Nat} {first : RootAction} (hs : s.Sound)
    (hasks : first.Asks call) {actions : List RootAction}
    (hkeep : OthersKeep pool index call s actions)
    {rest : List RootAction} (hinitial : first :: rest <+: actions)
    (hbegins : ∀ action ∈ rest, ¬ action.Begins call) (h : run step s (first :: rest) = some t) :
    t.Sound ∧ Outside pool index call (pool.used s index) t := by
  induction rest using List.reverseRecOn generalizing t with
  | nil =>
    obtain ⟨t', hstep, ht⟩ := run_cons_eq_some.mp h
    cases ht
    refine ⟨(step_sound hs hstep).1, fun phase hphase => ?_⟩
    obtain ⟨⟨t', out⟩, hact, rfl⟩ := map_eq_some_iff.mp hstep
    obtain ⟨hidle, rfl | ⟨-, hclaimed⟩⟩ := asks_spec hasks hact
    · rw [hidle] at hphase
      cases hphase
    · obtain ⟨hused, hholds⟩ := hclaimed pool
      simp only [hused, hholds, not_mem_nil, not_false_eq_true, and_true]
  | append_singleton rest action ih =>
    rw [← cons_append] at h hinitial
    obtain ⟨u, hu, hstep⟩ := run_concat_eq_some.mp h
    have hbefore : first :: rest <+: actions := (prefix_append _ _).trans hinitial
    obtain ⟨hsound, hout⟩ := ih hbefore
      (fun action' h' => hbegins action' (mem_append_left _ h')) hu
    refine ⟨(step_sound hsound hstep).1, ?_⟩
    obtain ⟨⟨t', out⟩, hact, rfl⟩ := map_eq_some_iff.mp hstep
    have hnot : ¬ action.Begins call :=
      hbegins action (mem_append_right _ (mem_singleton_self action))
    exact outside_act hsound hout hact hnot fun hby => hkeep _ action u t' hinitial hu hstep hby

/-- A pin or a retain that fails leaves every slot and every lease as the others have it. -/
theorem FailedCall.restores {table after : RootTable} {actions : List RootAction}
    (hs : table.Sound) (h : table.FailedCall after call actions) (pool : RootPool) (index : Nat)
    (hkeep : OthersKeep pool index call table actions) :
    pool.used after index = pool.used table index := by
  obtain ⟨first, rest, hactions, hasks, hbegins⟩ := h.first
  obtain ⟨before, last, s, status, heq, hrun, hby, hact⟩ := h.last
  rw [hactions] at heq hkeep
  cases before with
  | nil =>
    obtain ⟨rfl, rfl⟩ : first = last ∧ rest = [] := cons_eq_cons.mp heq
    cases hrun
    obtain ⟨-, rfl | ⟨hnone, -⟩⟩ := asks_spec hasks hact
    · rfl
    · cases hnone
  | cons first' before =>
    obtain ⟨rfl, rfl⟩ : first = first' ∧ rest = before ++ [last] := cons_eq_cons.mp heq
    have hinitial : first :: before <+: first :: (before ++ [last]) :=
      cons_prefix_cons.mpr ⟨rfl, prefix_append _ _⟩
    obtain ⟨hsound, hout⟩ := outside_run hs hasks hkeep hinitial
      (fun action haction => hbegins action (mem_append_left _ haction)) hrun
    have hnot : ¬ last.Begins call :=
      hbegins last (mem_append_right _ (mem_singleton_self last))
    cases last with
    | pin | unpin | retain | release => exact absurd hby hnot
    | get | set | collect => exact absurd hby id
    | proceed call' answered newHandle =>
      obtain rfl : call' = call := hby
      obtain ⟨phase, hphase, hstep⟩ := bind_eq_some_iff.mp hact
      have hspec := proceed_spec hsound hphase hstep
      have hidle := hspec.ends nofun
      obtain hothers | ⟨outcome, hsome, hfails⟩ := hspec.others
      · have hiff := (hspec.outside pool index hsound hothers).trans (hout phase hphase)
        rw [pool.holds_idle hidle] at hiff
        simp only [not_mem_nil, not_false_eq_true, and_true] at hiff
        exact Bool.eq_iff_iff.mpr hiff
      · exact absurd (Option.some.inj hsome).symm (hfails status)

end Failures

/-! ## Whole runs -/

section Idle
variable {table : RootTable}

/-- With no call under way, the used slots are those of live leases and live strong handles. -/
theorem Sound.used_iff_of_idle (h : table.Sound) (hidle : ∀ call, table.calls call = none)
    (root : Nat) : (table.roots root).used = true ↔
      (∃ lease, table.live lease = true ∧ root ∈ (table.leases lease).listed) ∨
        ∃ handle, table.handles handle = some ⟨.strong, root⟩ := by
  rw [h.roots.exact root]
  constructor
  · rintro ⟨o, hroot⟩
    cases o with
    | lease lease =>
      cases hlive : table.live lease with
      | true =>
        rw [holds_live hlive] at hroot
        exact .inl ⟨lease, hlive, hroot⟩
      | false =>
        rw [holds_unlive hlive] at hroot
        exact absurd hroot not_mem_nil
    | handle handle =>
      by_cases hstrong : ∃ root', table.handles handle = some ⟨.strong, root'⟩
      · obtain ⟨root', hhandle⟩ := hstrong
        rw [holds_strong hhandle, mem_singleton] at hroot
        exact .inr ⟨handle, hroot ▸ hhandle⟩
      · rw [holds_rootless (not_exists.mp hstrong)] at hroot
        exact absurd hroot not_mem_nil
    | call call =>
      rw [holds_idle (hidle call)] at hroot
      exact absurd hroot not_mem_nil
  · rintro (⟨lease, hlive, hroot⟩ | ⟨handle, hhandle⟩)
    · exact ⟨.lease lease, holds_live hlive ▸ hroot⟩
    · exact ⟨.handle handle, holds_strong hhandle ▸ mem_singleton_self root⟩

theorem Sound.leased_iff_of_idle (h : table.Sound) (hidle : ∀ call, table.calls call = none)
    (lease : Nat) : (table.leases lease).used = true ↔ table.live lease = true := by
  rw [h.leases.exact lease]
  constructor
  · rintro ⟨o, hlease⟩
    cases o with
    | lease lease' =>
      cases hlive : table.live lease' with
      | true =>
        rw [holdsLease_live hlive, mem_singleton] at hlease
        exact hlease ▸ hlive
      | false =>
        rw [holdsLease_unlive hlive] at hlease
        exact absurd hlease not_mem_nil
    | handle handle => exact absurd hlease not_mem_nil
    | call call =>
      rw [holdsLease_idle (hidle call)] at hlease
      exact absurd hlease not_mem_nil
  · intro hlive
    exact ⟨.lease lease, holdsLease_live hlive ▸ mem_singleton_self lease⟩

end Idle

/-- For every interleaving of the calls and of the collector: slots and leases have exactly one
owner while they are used and none otherwise, and once no call is under way the owners are the live
leases and strong handles; a free slot holds null; every call returns what was last pinned or set;
and one that fails leaves the slots and the leases as they were. -/
theorem roots_never_alias {nullRaw : BitVec 64} {identity : DartPlantIsolateIdentity}
    {actions : List RootAction} {table : RootTable}
    (hrun : run step (RootTable.init nullRaw identity) actions = some table) :
    (Exclusive (fun root => (table.roots root).used) table.holds ∧
      Exclusive (fun lease => (table.leases lease).used) table.holdsLease) ∧
    ((∀ call, table.calls call = none) →
      (∀ root, (table.roots root).used = true ↔
        (∃ lease, table.live lease = true ∧ root ∈ (table.leases lease).listed) ∨
          ∃ handle, table.handles handle = some ⟨.strong, root⟩) ∧
      ∀ lease, (table.leases lease).used = true ↔ table.live lease = true) ∧
    (∀ root, (table.roots root).used = false → (table.roots root).raw = nullRaw) ∧
    (∀ action after outcome, table.act action = some (after, some outcome) →
      table.Returns after outcome) ∧
    ∀ call schedule after, table.FailedCall after call schedule →
      ∀ (pool : RootPool) (index : Nat), OthersKeep pool index call table schedule →
        pool.used after index = pool.used table index := by
  obtain ⟨hs, hnull⟩ : table.Sound ∧ table.nullRaw = nullRaw :=
    run_sound (.init nullRaw identity) hrun
  refine ⟨⟨hs.roots, hs.leases⟩, fun hidle => ?_, fun root hfree => ?_,
    fun action after outcome hact => ?_, fun call schedule after hfailed pool index hkeep => ?_⟩
  · exact ⟨hs.used_iff_of_idle hidle, hs.leased_iff_of_idle hidle⟩
  · rw [hs.cleared root hfree, hnull]
  · exact (act_spec hs hact).2.2 outcome rfl
  · exact hfailed.restores hs pool index hkeep

/-- One pin, up to its return, and the retain of another call up to the slot it has claimed. -/
def pinAndRetain : List RootAction :=
  [.pin 0 {} [5], .proceed 0 true 0, .proceed 0 true 0, .proceed 0 true 0, .retain 1 6 .strong,
    .proceed 1 true 0, .proceed 0 true 0, .proceed 1 true 0, .proceed 0 true 0]

theorem roots_never_alias_pinAndRetain :
    ∃ table, run step (RootTable.init 7 {}) pinAndRetain = some table ∧
      table.holds (.lease 0) = [0] ∧ table.holds (.call 1) = [1] ∧
      Exclusive (fun root => (table.roots root).used) table.holds ∧ (table.roots 2).raw = 7 := by
  obtain ⟨table, hrun, hlease, hcall, hfree⟩ :
      ∃ table, run step (RootTable.init 7 {}) pinAndRetain = some table ∧
        table.holds (.lease 0) = [0] ∧ table.holds (.call 1) = [1] ∧
        (table.roots 2).used = false := ⟨_, rfl, rfl, rfl, rfl⟩
  obtain ⟨⟨hroots, -⟩, -, hnull, -⟩ := roots_never_alias hrun
  exact ⟨table, hrun, hlease, hcall, hroots, hnull 2 hfree⟩

end RootTable

end DartPlant
