import DartPlant.Vm.RootOwnership

/-! # The steps keep the roots owned

One lemma for each way in which a step changes who holds what: not at all, a slot or a lease is
claimed or given back, or a call passes what it holds on to the client's lease or handle, and the
other way round.  `proceed_spec` takes the accesses of a call one by one.
-/

namespace DartPlant
open Function List
namespace RootTable
open Runs FlagOwners

/-! ## What a step may change -/

/-- The step changes only what the actors hold, or what nobody does. -/
structure Moves (s t : RootTable) (acts : RootOwner → Prop) : Prop where
  entry : ∀ o, ¬ acts o → s.SameEntry t o
  leases : ∀ lease, t.leases lease = s.leases lease ∨ (s.leases lease).used = false ∨
    ∃ o, acts o ∧ lease ∈ s.holdsLease o
  raws : ∀ root, (t.roots root).raw = (s.roots root).raw ∨ ∃ o, acts o ∧ root ∈ s.holds o
  history : t.history = s.history ∨ ∃ lease index raw,
    t.history = .stored lease index raw :: s.history ∧ ∃ o, acts o ∧ lease ∈ s.holdsLease o
  nullRaw : t.nullRaw = s.nullRaw

namespace Moves
variable {s t : RootTable} {acts : RootOwner → Prop} {call : Nat}

theorem refl (s : RootTable) (acts : RootOwner → Prop) : s.Moves s acts where
  entry := by
    intro o _
    cases o <;> rfl
  leases := fun _ => .inl rfl
  raws := fun _ => .inl rfl
  history := .inl rfl
  nullRaw := rfl

theorem setCall (h : s.Moves t acts) (hacts : acts (.call call)) (phase : RootCall) :
    s.Moves (t.setCall call phase) acts := by
  refine ⟨fun o ho => ?_, h.leases, h.raws, h.history, h.nullRaw⟩
  cases o with
  | lease | handle => exact h.entry _ ho
  | call other =>
    have hne : other ≠ call := fun heq => ho (heq ▸ hacts)
    exact (update_of_ne hne _ _).trans (h.entry _ ho)

theorem finish (h : s.Moves t acts) (call : Nat) (hacts : acts (.call call)) :
    s.Moves (t.finish call) acts := by
  refine ⟨fun o ho => ?_, h.leases, h.raws, h.history, h.nullRaw⟩
  cases o with
  | lease | handle => exact h.entry _ ho
  | call other =>
    have hne : other ≠ call := fun heq => ho (heq ▸ hacts)
    exact (update_of_ne hne _ _).trans (h.entry _ ho)

theorem setLive (h : s.Moves t acts) {lease : Nat} (hacts : acts (.lease lease)) (live : Bool) :
    s.Moves (t.setLive lease live) acts := by
  refine ⟨fun o ho => ?_, h.leases, h.raws, h.history, h.nullRaw⟩
  cases o with
  | call | handle => exact h.entry _ ho
  | lease other =>
    have hne : other ≠ lease := fun heq => ho (heq ▸ hacts)
    exact (update_of_ne hne _ _).trans (h.entry _ ho)

theorem setHandle (h : s.Moves t acts) {index : Nat} (hacts : acts (.handle index))
    (handle : Option RealHandle) : s.Moves (t.setHandle index handle) acts := by
  refine ⟨fun o ho => ?_, h.leases, h.raws, h.history, h.nullRaw⟩
  cases o with
  | call | lease => exact h.entry _ ho
  | handle other =>
    have hne : other ≠ index := fun heq => ho (heq ▸ hacts)
    exact (update_of_ne hne _ _).trans (h.entry _ ho)

theorem setUsed (h : s.Moves t acts) (root : Nat) (used : Bool) :
    s.Moves (t.setUsed root used) acts where
  entry := by
    intro o ho
    cases o <;> exact h.entry _ ho
  leases := h.leases
  raws := by
    intro other
    rw [setUsed_raw]
    exact h.raws other
  history := h.history
  nullRaw := h.nullRaw

theorem setRaw (h : s.Moves t acts) {root : Nat} (hheld : ∃ o, acts o ∧ root ∈ s.holds o)
    (raw : BitVec 64) : s.Moves (t.setRaw root raw) acts where
  entry := by
    intro o ho
    cases o <;> exact h.entry _ ho
  leases := h.leases
  raws := by
    intro other
    by_cases heq : other = root
    · exact .inr (heq ▸ hheld)
    · rw [setRaw_raw_of_ne heq]
      exact h.raws other
  history := h.history
  nullRaw := h.nullRaw

theorem setLease (h : s.Moves t acts) {index : Nat}
    (hheld : (s.leases index).used = false ∨ ∃ o, acts o ∧ index ∈ s.holdsLease o)
    (lease : RootLease) : s.Moves (t.setLease index lease) acts where
  entry := by
    intro o ho
    cases o <;> exact h.entry _ ho
  leases := by
    intro other
    by_cases heq : other = index
    · exact .inr (heq ▸ hheld)
    · simp only [RootTable.setLease, update_of_ne heq]
      exact h.leases other
  raws := h.raws
  history := h.history
  nullRaw := h.nullRaw

theorem stored (h : s.Moves t acts) {lease : Nat} (hhistory : t.history = s.history)
    (hheld : ∃ o, acts o ∧ lease ∈ s.holdsLease o) (index : Nat) (raw : BitVec 64) :
    s.Moves (t.record (.stored lease index raw)) acts where
  entry := by
    intro o ho
    cases o <;> exact h.entry _ ho
  leases := h.leases
  raws := h.raws
  history := .inr ⟨lease, index, raw, congrArg _ hhistory, hheld⟩
  nullRaw := h.nullRaw

theorem agrees (h : s.Moves t acts) (hs : s.Sound) (o : RootOwner) (ho : ¬ acts o) :
    s.Agrees t o :=
  hs.agrees ho (h.entry o ho) h.leases h.raws h.history h.nullRaw

/-- A slot that is free after the step holds null, if the step does not free it. -/
theorem cleared (h : s.Moves t acts) (hs : s.Sound) {root : Nat}
    (hfree : (s.roots root).used = false) : (t.roots root).raw = t.nullRaw := by
  obtain heq | ⟨o, -, hheld⟩ := h.raws root
  · rw [heq, h.nullRaw]
    exact hs.cleared root hfree
  · exact absurd hheld (hs.roots.notMem hfree o)

end Moves

/-! ## The steps of one call -/

/-- A step by a call keeps the invariant, and all others hold what they held. -/
structure Keeps (s t : RootTable) (call : Nat) : Prop where
  sound : t.Sound
  holds : ∀ o, o ≠ .call call → t.holds o = s.holds o
  holdsLease : ∀ o, o ≠ .call call → t.holdsLease o = s.holdsLease o
  nullRaw : t.nullRaw = s.nullRaw

section Call
variable {s t : RootTable} {call : Nat}

/-- The actors of a step by a call alone. -/
abbrev Alone (call : Nat) : RootOwner → Prop := fun o => o = .call call

theorem Moves.keeps (hm : s.Moves t (Alone call)) (hs : s.Sound) (ht : t.Sound) :
    s.Keeps t call where
  sound := ht
  holds := fun o ho => (hm.agrees hs o ho).holds_eq
  holdsLease := fun o ho => (hm.agrees hs o ho).holdsLease_eq
  nullRaw := hm.nullRaw

section
variable (hs : s.Sound)
include hs

/-- The actor holds after the step what it held before. -/
theorem Sound.of_quiet {actor : RootOwner} (hm : s.Moves t fun o => o = actor)
    (hused : ∀ root, (t.roots root).used = (s.roots root).used)
    (hleased : ∀ lease, (t.leases lease).used = (s.leases lease).used)
    (hholds : t.holds actor = s.holds actor) (hholdsLease : t.holdsLease actor = s.holdsLease actor)
    (hcontent : t.Content actor) : t.Sound := by
  refine hs.of_agrees (hm.agrees hs) ?_ ?_ ?_ ?_ ?_
  · rw [funext hused]
    exact hs.roots.keep_of hholds fun o ho => (hm.agrees hs o ho).holds_eq
  · rw [funext hleased]
    exact hs.leases.keep_of hholdsLease fun o ho => (hm.agrees hs o ho).holdsLease_eq
  · intro root hfree
    exact hm.cleared hs (hused root ▸ hfree)
  · rintro o rfl root hroot
    exact hs.bounded o root (hholds ▸ hroot)
  · rintro o rfl
    exact hcontent

theorem Sound.quiet (hm : s.Moves t (Alone call))
    (hused : ∀ root, (t.roots root).used = (s.roots root).used)
    (hleased : ∀ lease, (t.leases lease).used = (s.leases lease).used)
    (hholds : t.holds (.call call) = s.holds (.call call))
    (hholdsLease : t.holdsLease (.call call) = s.holdsLease (.call call))
    (hcontent : t.Content (.call call)) : s.Keeps t call :=
  hm.keeps hs (hs.of_quiet hm hused hleased hholds hholdsLease hcontent)

/-- The call claims a free slot. -/
theorem Sound.claimRoot (hm : s.Moves t (Alone call)) {root : Nat}
    (hfree : (s.roots root).used = false) (hroot : root < kRootSlotCount)
    (hused : (fun other => (t.roots other).used) =
      update (fun other => (s.roots other).used) root true)
    (hleased : ∀ lease, (t.leases lease).used = (s.leases lease).used)
    (hholds : t.holds (.call call) = s.holds (.call call) ++ [root])
    (hholdsLease : t.holdsLease (.call call) = s.holdsLease (.call call))
    (hcontent : t.Content (.call call)) : s.Keeps t call := by
  refine hm.keeps hs (hs.of_agrees (hm.agrees hs) ?_ ?_ ?_ ?_ ?_)
  · rw [hused]
    exact hs.roots.claim hfree hholds fun o ho => (hm.agrees hs o ho).holds_eq
  · rw [funext hleased]
    exact hs.leases.keep_of hholdsLease fun o ho => (hm.agrees hs o ho).holdsLease_eq
  · intro other hother
    refine hm.cleared hs ?_
    have hflag : (t.roots other).used = _ := congrFun hused other
    by_cases heq : other = root
    · rw [heq]
      exact hfree
    · rw [update_of_ne heq] at hflag
      exact hflag ▸ hother
  · rintro o rfl other hother
    rw [hholds, mem_append, mem_singleton] at hother
    obtain hother | rfl := hother
    · exact hs.bounded _ other hother
    · exact hroot
  · rintro o rfl
    exact hcontent

/-- The call gives a cleared slot back. -/
theorem Sound.freeRoot (hm : s.Moves t (Alone call)) {root : Nat}
    (hnull : (s.roots root).raw = s.nullRaw) (hraw : (t.roots root).raw = (s.roots root).raw)
    (hused : (fun other => (t.roots other).used) =
      update (fun other => (s.roots other).used) root false)
    (hleased : ∀ lease, (t.leases lease).used = (s.leases lease).used)
    (hholds : s.holds (.call call) = root :: t.holds (.call call))
    (hholdsLease : t.holdsLease (.call call) = s.holdsLease (.call call))
    (hcontent : t.Content (.call call)) : s.Keeps t call := by
  refine hm.keeps hs (hs.of_agrees (hm.agrees hs) ?_ ?_ ?_ ?_ ?_)
  · rw [hused]
    exact hs.roots.giveBack hholds fun o ho => (hm.agrees hs o ho).holds_eq
  · rw [funext hleased]
    exact hs.leases.keep_of hholdsLease fun o ho => (hm.agrees hs o ho).holdsLease_eq
  · intro other hother
    by_cases heq : other = root
    · rw [heq, hraw, hnull, hm.nullRaw]
    · refine hm.cleared hs ?_
      have hflag : (t.roots other).used = _ := congrFun hused other
      rw [update_of_ne heq] at hflag
      exact hflag ▸ hother
  · rintro o rfl other hother
    refine hs.bounded (.call call) other ?_
    rw [hholds]
    exact mem_cons_of_mem _ hother
  · rintro o rfl
    exact hcontent

/-- The call claims a lease or gives the one it has back; it holds no slots. -/
theorem Sound.changeLease (hm : s.Moves t (Alone call))
    (hused : ∀ root, (t.roots root).used = (s.roots root).used)
    (hleased : Exclusive (fun lease => (t.leases lease).used) t.holdsLease)
    (hholds : s.holds (.call call) = []) (hholds' : t.holds (.call call) = [])
    (hcontent : t.Content (.call call)) : s.Keeps t call := by
  refine hm.keeps hs (hs.of_agrees (hm.agrees hs) ?_ hleased ?_ ?_ ?_)
  · rw [funext hused]
    exact hs.roots.keep_of (hholds'.trans hholds.symm) fun o ho => (hm.agrees hs o ho).holds_eq
  · intro root hfree
    exact hm.cleared hs (hused root ▸ hfree)
  · rintro o rfl root hroot
    rw [hholds'] at hroot
    exact absurd hroot not_mem_nil
  · rintro o rfl
    exact hcontent

end

/-! ### What a call finds after its step -/

theorem setCall_calls (table : RootTable) (call : Nat) (phase : RootCall) :
    (table.setCall call phase).calls call = some phase := update_self ..

theorem finish_calls (table : RootTable) (call : Nat) : (table.finish call).calls call = none :=
  update_self ..

theorem content_of_phase {phase : RootCall} (h : t.calls call = some phase)
    (hproper : phase.Proper t) : t.Content (.call call) := by
  intro phase' h'
  rw [h] at h'
  cases h'
  exact hproper

theorem content_of_idle (h : t.calls call = none) : t.Content (.call call) := by
  intro phase' h'
  rw [h] at h'
  cases h'

theorem proper_setCall {next : RootCall} (hproper : next.Proper s) (call : Nat)
    (phase : RootCall) : next.Proper (s.setCall call phase) := by
  have hframe : s.Frame (s.setCall call phase) next.leases (next.roots s.leases) :=
    ⟨fun _ _ => rfl, fun _ _ => rfl, .inl rfl, rfl⟩
  exact hframe.proper next hproper

/-- The call only goes on. -/
theorem Sound.advance (hs : s.Sound) (next : RootCall) {phase : RootCall}
    (hphase : s.calls call = some phase)
    (hroots : next.roots s.leases = phase.roots s.leases) (hleases : next.leases = phase.leases)
    (hproper : next.Proper s) : s.Keeps (s.setCall call next) call := by
  have hnext := setCall_calls s call next
  refine hs.quiet ((Moves.refl s (Alone call)).setCall rfl next) (fun _ => rfl) (fun _ => rfl) ?_ ?_ ?_
  · rw [holds_call hnext, holds_call hphase]
    exact hroots
  · rw [holdsLease_call hnext, holdsLease_call hphase, hleases]
  · exact content_of_phase hnext (proper_setCall hproper call next)

/-- The call, which holds nothing, returns. -/
theorem Sound.finish (hs : s.Sound) {phase : RootCall} (hphase : s.calls call = some phase)
    (hroots : phase.roots s.leases = []) (hleases : phase.leases = []) :
    s.Keeps (s.finish call) call := by
  have hidle := finish_calls s call
  refine hs.quiet ((Moves.refl s (Alone call)).finish call rfl) (fun _ => rfl) (fun _ => rfl) ?_ ?_
    (content_of_idle hidle)
  · rw [holds_idle hidle, holds_call hphase, hroots]
  · rw [holdsLease_idle hidle, holdsLease_call hphase, hleases]

/-- The call owns what its phase says. -/
theorem leased {phase : RootCall} (hphase : s.calls call = some phase) {lease : Nat}
    (hlease : lease ∈ phase.leases) : ∃ o, Alone call o ∧ lease ∈ s.holdsLease o :=
  ⟨.call call, rfl, holdsLease_call hphase ▸ hlease⟩

theorem rooted {phase : RootCall} (hphase : s.calls call = some phase) {root : Nat}
    (hroot : root ∈ phase.roots s.leases) : ∃ o, Alone call o ∧ root ∈ s.holds o :=
  ⟨.call call, rfl, holds_call hphase ▸ hroot⟩

/-! ### Claiming -/

theorem Sound.claimsLease (hs : s.Sound) {values : List (BitVec 64)} {lease : Nat}
    (hphase : s.calls call = some (.claimLease values lease))
    (hfree : (s.leases lease).used = false) :
    s.Keeps ((s.setLease lease ((s.leases lease).setUsed true)).setCall call
      (.resetLease values lease)) call := by
  have hnext := setCall_calls (s.setLease lease ((s.leases lease).setUsed true)) call
    (.resetLease values lease)
  have hm := ((Moves.refl s (Alone call)).setLease (.inl hfree)
    ((s.leases lease).setUsed true)).setCall rfl (.resetLease values lease)
  refine hs.changeLease hm (fun _ => rfl) ?_ (holds_call hphase) (holds_call hnext)
    (content_of_phase hnext (hs.content (.call call) _ hphase))
  have hflags : (fun other => (((s.setLease lease ((s.leases lease).setUsed true)).setCall call
      (.resetLease values lease)).leases other).used) =
      update (fun other => (s.leases other).used) lease true := setLease_used lease _
  rw [hflags]
  refine hs.leases.claim hfree ?_ fun o ho => (hm.agrees hs o ho).holdsLease_eq
  rw [holdsLease_call hnext, holdsLease_call hphase]
  rfl

theorem Sound.resetsLease (hs : s.Sound) {values : List (BitVec 64)} {lease : Nat}
    (hphase : s.calls call = some (.resetLease values lease)) :
    s.Keeps ((s.setLease lease (s.leases lease).reset).setCall call
      (.acquire 0 (.pin values lease 0))) call := by
  have hnext := setCall_calls (s.setLease lease (s.leases lease).reset) call
    (.acquire 0 (.pin values lease 0))
  have hself : (s.setLease lease (s.leases lease).reset).leases lease = (s.leases lease).reset :=
    update_self ..
  have hm := ((Moves.refl s (Alone call)).setLease
    (.inr (leased hphase (mem_singleton_self lease))) (s.leases lease).reset).setCall rfl
    (.acquire 0 (.pin values lease 0))
  refine hs.quiet hm (fun _ => rfl) (fun other => ?_) ?_ ?_ (content_of_phase hnext ?_)
  · by_cases heq : other = lease
    · have hflag := congrArg RootLease.used hself
      rw [heq]
      exact hflag
    · exact congrArg RootLease.used (update_of_ne heq _ _)
  · rw [holds_call hnext, holds_call hphase]
    show RootLease.listed ((s.setLease lease (s.leases lease).reset).leases lease) = []
    rw [hself]
    rfl
  · rw [holdsLease_call hnext, holdsLease_call hphase]
    rfl
  · refine ⟨length_pos_iff.mpr (hs.content (.call call) _ hphase), ?_, ?_, nofun⟩
    · exact congrArg RootLease.hasOwner hself
    · exact congrArg RootLease.count hself

theorem Sound.claimsRoot (hs : s.Sound) {cursor : Nat} {user : AcquireUser}
    (hphase : s.calls call = some (.acquire cursor user)) (hroot : cursor < kRootSlotCount)
    (hfree : (s.roots cursor).used = false) :
    s.Keeps ((s.setUsed cursor true).setCall call (acquired cursor user)) call := by
  have hnext := setCall_calls (s.setUsed cursor true) call (acquired cursor user)
  have hm := ((Moves.refl s (Alone call)).setUsed cursor true).setCall rfl (acquired cursor user)
  refine hs.claimRoot hm hfree hroot (setUsed_used true) (fun _ => rfl) ?_ ?_
    (content_of_phase hnext ?_)
  · rw [holds_call hnext, holds_call hphase]
    cases user <;> rfl
  · rw [holdsLease_call hnext, holdsLease_call hphase]
    cases user <;> rfl
  · have hproper : AcquireUser.Proper s user := hs.content (.call call) _ hphase
    have hframe : s.Frame ((s.setUsed cursor true).setCall call (acquired cursor user))
        user.leases (user.roots s.leases) :=
      ⟨fun _ _ => rfl, fun _ _ => setUsed_raw, .inl rfl, rfl⟩
    have hafter := hframe.acquireUser user hproper
    cases user with
    | pin values lease index => exact hafter
    | retain raw strength => trivial

/-! ### Pinning -/

theorem pinAt_leases (lease index root : Nat) (raw : BitVec 64) :
    (s.pinAt lease index root raw).leases lease = (s.leases lease).push index root :=
  update_self ..

theorem pinAt_roots (lease index root : Nat) (raw : BitVec 64) :
    (s.pinAt lease index root raw).roots = (s.setRaw root raw).roots := rfl

/-- One more value of a pin is in its slot. -/
theorem Pinned.push {values : List (BitVec 64)} {lease index root : Nat}
    (h : s.Pinned values lease index) (hroot : root < kRootSlotCount)
    (hnew : ∀ i < index, (s.leases lease).slots i ≠ root) :
    (s.pinAt lease index root (values.getD index 0)).Pinned values lease (index + 1) := by
  have hlease := pinAt_leases (s := s) lease index root (values.getD index 0)
  have hword : root % 2 ^ 16 = root := Nat.mod_eq_of_lt (Nat.lt_trans hroot (by decide))
  refine ⟨?_, ?_, fun i hi => ?_⟩
  · rw [hlease]
    exact h.hasOwner
  · rw [hlease]
    exact congrArg (· + 1) h.count
  · have hat : (s.pinAt lease index root (values.getD index 0)).rawAt lease i =
        ((s.setRaw root (values.getD index 0)).roots
          (update (s.leases lease).slots index root i)).raw := by
      unfold rawAt
      rw [hlease, pinAt_roots]
      simp only [RootLease.push, hword]
    rw [hat]
    show lastStored lease i (.stored lease index (values.getD index 0) :: s.history) = _
    by_cases heq : i = index
    · rw [heq, lastStored_stored_self, update_self, setRaw_raw_self]
    · have hlt : i < index := Nat.lt_of_le_of_ne (Nat.le_of_lt_succ hi) heq
      rw [lastStored_stored_of_index_ne (Ne.symm heq), update_of_ne heq,
        setRaw_raw_of_ne (hnew i hlt)]
      exact h.stored i hlt

theorem Sound.pinsRoot (hs : s.Sound) {values : List (BitVec 64)} {lease index root : Nat}
    (hphase : s.calls call = some (.pinRoot values lease index root)) :
    s.Keeps ((s.pinAt lease index root (values.getD index 0)).setCall call
      (if index + 1 < values.length then .acquire 0 (.pin values lease (index + 1))
        else .returnLease values lease)) call := by
  obtain ⟨hindex, hpinned⟩ : index < values.length ∧ s.Pinned values lease index :=
    hs.content (.call call) _ hphase
  have hholds : s.holds (.call call) = (s.leases lease).listed ++ [root] := holds_call hphase
  have hmem : root ∈ s.holds (.call call) := by
    rw [hholds]
    exact mem_append_right _ (mem_singleton_self root)
  have hroot : root < kRootSlotCount := hs.bounded (.call call) root hmem
  have hnew : ∀ i < index, (s.leases lease).slots i ≠ root := by
    intro i hi
    have hnodup := hs.roots.nodup (.call call)
    rw [hholds] at hnodup
    refine (nodup_append.mp hnodup).2.2 _ ?_ root (mem_singleton_self root)
    exact mem_map_of_mem (mem_range.mpr (hpinned.count ▸ hi))
  have hafter := hpinned.push hroot hnew
  have hlease := pinAt_leases (s := s) lease index root (values.getD index 0)
  have hlisted : ((s.leases lease).push index root).listed = (s.leases lease).listed ++ [root] := by
    have hword : root % 2 ^ 16 = root := Nat.mod_eq_of_lt (Nat.lt_trans hroot (by decide))
    rw [← hpinned.count, RootLease.listed_push, hword]
  generalize hraw : values.getD index 0 = raw at hafter hlease ⊢
  have hm := (((Moves.refl s (Alone call)).setLease
    (.inr (leased hphase (mem_singleton_self lease))) ((s.leases lease).push index root)).setRaw
      ⟨_, rfl, hmem⟩ raw).stored rfl (leased hphase (mem_singleton_self lease)) index raw
  -- Both ways on from here hold what the lease lists now.
  have hgoes : ∀ next : RootCall,
      next.roots (s.pinAt lease index root raw).leases
        = ((s.pinAt lease index root raw).leases lease).listed →
      next.leases = [lease] → next.Proper (s.pinAt lease index root raw) →
      s.Keeps ((s.pinAt lease index root raw).setCall call next) call := by
    intro next hroots hleases hproper
    have hnext := setCall_calls (s.pinAt lease index root raw) call next
    refine hs.quiet (hm.setCall rfl next) (fun other => setRaw_used) (fun other => ?_) ?_ ?_
      (content_of_phase hnext (proper_setCall hproper call next))
    · by_cases heq : other = lease
      · have hflag := congrArg RootLease.used hlease
        rw [heq]
        exact hflag
      · exact congrArg RootLease.used (update_of_ne heq _ _)
    · rw [holds_call hnext, hholds, ← hlisted, ← hlease]
      exact hroots
    · rw [holdsLease_call hnext, holdsLease_call hphase, hleases]
      rfl
  split
  next hmore => exact hgoes _ rfl rfl ⟨hmore, hafter⟩
  next hlast =>
    have hlength : index + 1 = values.length := Nat.le_antisymm hindex (Nat.not_lt.mp hlast)
    rw [hlength] at hafter
    exact hgoes _ rfl rfl hafter

theorem Sound.retainsRoot (hs : s.Sound) {raw : BitVec 64} {strength : DartPlantObjectStrength}
    {root : Nat} (hphase : s.calls call = some (.retainRoot raw strength root)) :
    s.Keeps ((s.setRaw root raw).setCall call (.makeLocal strength root)) call := by
  have hnext := setCall_calls (s.setRaw root raw) call (.makeLocal strength root)
  have hm := ((Moves.refl s (Alone call)).setRaw (rooted hphase (mem_singleton_self root))
    raw).setCall rfl (.makeLocal strength root)
  refine hs.quiet hm (fun other => setRaw_used) (fun _ => rfl) ?_ ?_
    (content_of_phase hnext trivial)
  · rw [holds_call hnext, holds_call hphase]
    rfl
  · rw [holdsLease_call hnext, holdsLease_call hphase]
    rfl

/-! ### Releasing -/

theorem Sound.clears (hs : s.Sound) {root : Nat} {user : ReleaseUser}
    (hphase : s.calls call = some (.clear root user)) :
    s.Keeps ((s.setRaw root s.nullRaw).setCall call (.free root user)) call := by
  have hnext := setCall_calls (s.setRaw root s.nullRaw) call (.free root user)
  have hmem : root ∈ s.holds (.call call) := by
    rw [holds_call hphase]
    exact mem_cons_self
  have hm := ((Moves.refl s (Alone call)).setRaw ⟨_, rfl, hmem⟩ s.nullRaw).setCall rfl
    (.free root user)
  refine hs.quiet hm (fun other => setRaw_used) (fun _ => rfl) ?_ ?_
    (content_of_phase hnext ⟨setRaw_raw_self, ?_⟩)
  · rw [holds_call hnext, holds_call hphase]
    rfl
  · rw [holdsLease_call hnext, holdsLease_call hphase]
    rfl
  · have hnodup := hs.roots.nodup (.call call)
    rw [holds_call hphase] at hnodup
    have hout : root ∉ user.roots s.leases := (nodup_cons.mp hnodup).1
    have hframe : s.Frame ((s.setRaw root s.nullRaw).setCall call (.free root user)) user.leases
        (user.roots s.leases) := by
      refine ⟨fun _ _ => rfl, fun other hother => setRaw_raw_of_ne ?_, .inl rfl, rfl⟩
      exact fun heq => hout (heq ▸ hother)
    exact hframe.releaseUser user (fun _ h => h) (hs.content (.call call) _ hphase)

/-- The call frees a slot and goes on to what is next. -/
theorem Sound.frees (hs : s.Sound) {root : Nat} {user : ReleaseUser} {next : RootCall}
    (hphase : s.calls call = some (.free root user))
    (hroots : next.roots s.leases = user.roots s.leases) (hleases : next.leases = user.leases)
    (hproper : next.Proper s) : s.Keeps ((s.setUsed root false).setCall call next) call := by
  have hnext := setCall_calls (s.setUsed root false) call next
  have hm := ((Moves.refl s (Alone call)).setUsed root false).setCall rfl next
  refine hs.freeRoot hm (hs.content (.call call) _ hphase).1 setUsed_raw (setUsed_used false)
    (fun _ => rfl) ?_ ?_ (content_of_phase hnext ?_)
  · rw [holds_call hnext, holds_call hphase]
    exact congrArg (root :: ·) hroots.symm
  · rw [holdsLease_call hnext, holdsLease_call hphase]
    exact hleases
  · have hframe : s.Frame ((s.setUsed root false).setCall call next) next.leases
        (next.roots s.leases) := ⟨fun _ _ => rfl, fun _ _ => setUsed_raw, .inl rfl, rfl⟩
    exact hframe.proper next hproper

/-- The call frees the last slot it holds, and returns. -/
theorem Sound.freesLast (hs : s.Sound) {root : Nat} {user : ReleaseUser}
    (hphase : s.calls call = some (.free root user)) (hroots : user.roots s.leases = [])
    (hleases : user.leases = []) : s.Keeps ((s.setUsed root false).finish call) call := by
  have hidle := finish_calls (s.setUsed root false) call
  have hm := ((Moves.refl s (Alone call)).setUsed root false).finish call rfl
  refine hs.freeRoot hm (hs.content (.call call) _ hphase).1 setUsed_raw (setUsed_used false)
    (fun _ => rfl) ?_ ?_ (content_of_idle hidle)
  · rw [holds_idle hidle, holds_call hphase]
    exact congrArg (root :: ·) hroots
  · rw [holdsLease_idle hidle, holdsLease_call hphase]
    exact hleases.symm

/-- The call gives its lease back, and returns. -/
theorem Sound.closes (hs : s.Sound) {phase : RootCall} {lease : Nat} {closed : RootLease}
    (hphase : s.calls call = some phase) (hroots : phase.roots s.leases = [])
    (hleases : phase.leases = [lease]) (hclosed : closed.used = false) :
    s.Keeps ((s.setLease lease closed).finish call) call := by
  have hidle := finish_calls (s.setLease lease closed) call
  have hheld : lease ∈ phase.leases := hleases ▸ mem_singleton_self lease
  have hm := ((Moves.refl s (Alone call)).setLease (.inr (leased hphase hheld)) closed).finish
    call rfl
  refine hs.changeLease hm (fun _ => rfl) ?_ (holds_call hphase ▸ hroots) (holds_idle hidle)
    (content_of_idle hidle)
  have hflags : (fun other => (((s.setLease lease closed).finish call).leases other).used) =
      update (fun other => (s.leases other).used) lease closed.used :=
    setLease_used lease closed
  rw [hflags, hclosed]
  refine hs.leases.giveBack ?_ fun o ho => (hm.agrees hs o ho).holdsLease_eq
  rw [holdsLease_idle hidle, holdsLease_call hphase, hleases]

theorem Sound.readsRoot (hs : s.Sound) {lease index : Nat} {out : List (BitVec 64)}
    (hphase : s.calls call = some (.readRoot lease index out)) :
    s.Keeps (s.setCall call (.clear ((s.leases lease).slots index)
      (.unpin lease (index + 1) (out ++ [s.rawAt lease index])))) call := by
  obtain ⟨hindex, hunpin⟩ : index < (s.leases lease).count ∧ s.Unpinning lease index out :=
    hs.content (.call call) _ hphase
  refine hs.advance _ hphase ?_ rfl ⟨?_, hindex, fun i raw hi => ?_, fun i hle hlt => ?_⟩
  · exact (RootLease.listed_drop hindex).symm
  · rw [length_append, length_singleton, hunpin.length]
  · obtain ⟨given, hgiven⟩ := hunpin.stored index (Nat.le_refl _) hindex
    by_cases hnew : i < out.length
    · rw [List.getElem?_append_left hnew] at hi
      exact hunpin.read i raw hi
    · rw [List.getElem?_append_right (Nat.not_lt.mp hnew), List.getElem?_singleton] at hi
      split at hi
      next hzero =>
        have heq : i = index := by
          have := hunpin.length
          omega
        cases hi
        rw [heq]
        exact .of_lastStored hgiven
      next => cases hi
  · exact hunpin.stored i (Nat.le_of_succ_le hle) hlt

theorem readFrom_spec {lease index : Nat} {out : List (BitVec 64)}
    (h : s.Unpinning lease index out) : (s.readFrom lease index out).Proper s ∧
      (s.readFrom lease index out).roots s.leases = (s.leases lease).listed.drop index ∧
      (s.readFrom lease index out).leases = [lease] := by
  unfold readFrom
  split
  next hmore => exact ⟨⟨hmore, h⟩, rfl, rfl⟩
  next hlast =>
    have hcount : index = (s.leases lease).count := Nat.le_antisymm h.count (Nat.not_lt.mp hlast)
    refine ⟨?_, (RootLease.listed_drop_eq_nil (Nat.not_lt.mp hlast)).symm, rfl⟩
    show s.Unpinning lease (s.leases lease).count out
    rwa [← hcount]

theorem unwindFrom_spec (s : RootTable) (lease cursor : Nat) :
    (s.unwindFrom lease cursor).Proper s ∧
      (s.unwindFrom lease cursor).roots s.leases = (s.leases lease).listed.drop cursor ∧
      (s.unwindFrom lease cursor).leases = [lease] := by
  unfold unwindFrom
  split
  next hmore => exact ⟨trivial, (RootLease.listed_drop hmore).symm, rfl⟩
  next hlast =>
    exact ⟨trivial, (RootLease.listed_drop_eq_nil (Nat.not_lt.mp hlast)).symm, rfl⟩

/-! ## Passing on -/

/-- An owner passes everything on to another that holds nothing. -/
theorem Sound.passes (hs : s.Sound) {giver taker : RootOwner}
    (hm : s.Moves t fun o => o = giver ∨ o = taker) (hne : taker ≠ giver)
    (hused : ∀ root, (t.roots root).used = (s.roots root).used)
    (hleased : ∀ lease, (t.leases lease).used = (s.leases lease).used)
    (hholds : s.holds taker = [] ∧ t.holds taker = s.holds giver ∧ t.holds giver = [])
    (hholdsLease : s.holdsLease taker = [] ∧ t.holdsLease taker = s.holdsLease giver ∧
      t.holdsLease giver = [])
    (hgiver : t.Content giver) (htaker : t.Content taker) : t.Sound := by
  have hother : ∀ o, o ≠ giver → o ≠ taker → s.Agrees t o := fun o hg ht =>
    hm.agrees hs o (not_or.mpr ⟨hg, ht⟩)
  obtain ⟨hempty, hto, hfrom⟩ := hholds
  obtain ⟨hemptyLease, htoLease, hfromLease⟩ := hholdsLease
  refine hs.of_agrees (hm.agrees hs) ?_ ?_ ?_ ?_ ?_
  · rw [funext hused]
    exact hs.roots.pass hne hempty hto hfrom fun o hg ht => (hother o hg ht).holds_eq
  · rw [funext hleased]
    exact hs.leases.pass hne hemptyLease htoLease hfromLease fun o hg ht =>
      (hother o hg ht).holdsLease_eq
  · intro root hfree
    exact hm.cleared hs (hused root ▸ hfree)
  · rintro o (rfl | rfl) root hroot
    · rw [hfrom] at hroot
      exact absurd hroot not_mem_nil
    · rw [hto] at hroot
      exact hs.bounded giver root hroot
  · rintro o (rfl | rfl)
    · exact hgiver
    · exact htaker

theorem holdsLease_live {lease : Nat} (h : s.live lease = true) :
    s.holdsLease (.lease lease) = [lease] := if_pos h

theorem holdsLease_unlive {lease : Nat} (h : s.live lease = false) :
    s.holdsLease (.lease lease) = [] := if_neg (h ▸ Bool.false_ne_true)

theorem holds_live {lease : Nat} (h : s.live lease = true) :
    s.holds (.lease lease) = (s.leases lease).listed := if_pos h

theorem holds_unlive {lease : Nat} (h : s.live lease = false) :
    s.holds (.lease lease) = [] := if_neg (h ▸ Bool.false_ne_true)

theorem holds_strong {handle root : Nat} (h : s.handles handle = some ⟨.strong, root⟩) :
    s.holds (.handle handle) = [root] := by
  simp only [holds, h]

/-- A handle that is weak, or not there, owns no slot. -/
theorem holds_rootless {handle : Nat} (h : ∀ root, s.handles handle ≠ some ⟨.strong, root⟩) :
    s.holds (.handle handle) = [] := by
  rw [RootTable.holds]
  split
  next root hroot => exact absurd hroot (h root)
  next => rfl

/-- A pin gives its lease to the client. -/
theorem Sound.returnsLease (hs : s.Sound) {values : List (BitVec 64)} {lease : Nat}
    (hphase : s.calls call = some (.returnLease values lease)) :
    ((s.setLive lease true).finish call).Sound := by
  have hpinned : s.Pinned values lease values.length := hs.content (.call call) _ hphase
  have hunlive : s.live lease = false := by
    by_contra hlive
    rw [Bool.not_eq_false] at hlive
    have hheld : lease ∈ s.holdsLease (.lease lease) :=
      holdsLease_live hlive ▸ mem_singleton_self lease
    have hheld' : lease ∈ s.holdsLease (.call call) :=
      holdsLease_call hphase ▸ mem_singleton_self lease
    cases hs.leases.sole _ _ lease hheld hheld'
  have hlive : ((s.setLive lease true).finish call).live lease = true := update_self ..
  have hidle := finish_calls (s.setLive lease true) call
  refine hs.passes (((Moves.refl s _).setLive (.inr rfl) true).finish call (.inl rfl)) nofun
    (fun _ => rfl) (fun _ => rfl) ⟨holds_unlive hunlive, ?_, holds_idle hidle⟩
    ⟨holdsLease_unlive hunlive, ?_, holdsLease_idle hidle⟩ (content_of_idle hidle) ?_
  · rw [holds_live hlive, holds_call hphase]
    rfl
  · rw [holdsLease_live hlive, holdsLease_call hphase]
    rfl
  · intro _
    exact ⟨hpinned.hasOwner, fun i hi => ⟨_, hpinned.stored i (hpinned.count ▸ hi)⟩⟩

/-- An unpin takes a lease from the client. -/
theorem Sound.takesLease (hs : s.Sound) {lease : Nat} (hidle : s.calls call = none)
    (hlive : s.live lease = true) :
    ((s.setLive lease false).setCall call (s.readFrom lease 0 [])).Sound := by
  have hunlive : ((s.setLive lease false).setCall call (s.readFrom lease 0 [])).live lease = false :=
    update_self ..
  have hnext := setCall_calls (s.setLive lease false) call (s.readFrom lease 0 [])
  have hunpin : s.Unpinning lease 0 [] :=
    ⟨rfl, Nat.zero_le _, nofun, fun i _ hi => (hs.content (.lease lease) hlive).2 i hi⟩
  obtain ⟨hproper, hroots, hleases⟩ := readFrom_spec hunpin
  refine hs.passes (((Moves.refl s _).setLive (.inl rfl) false).setCall (.inr rfl) _) nofun
    (fun _ => rfl) (fun _ => rfl) ⟨holds_idle hidle, ?_, holds_unlive hunlive⟩
    ⟨holdsLease_idle hidle, ?_, holdsLease_unlive hunlive⟩ ?_ (content_of_phase hnext ?_)
  · rw [holds_call hnext, holds_live hlive]
    exact hroots
  · rw [holdsLease_call hnext, holdsLease_live hlive]
    exact hleases
  · intro h
    rw [hunlive] at h
    cases h
  · have hframe : s.Frame ((s.setLive lease false).setCall call (s.readFrom lease 0 []))
        (s.readFrom lease 0 []).leases ((s.readFrom lease 0 []).roots s.leases) :=
      ⟨fun _ _ => rfl, fun _ _ => rfl, .inl rfl, rfl⟩
    exact hframe.proper _ hproper

/-- A retain gives its slot to a new strong handle. -/
theorem Sound.makesHandle (hs : s.Sound) {root handle : Nat}
    (hphase : s.calls call = some (.makeHandle .strong root)) (hfresh : s.handles handle = none) :
    ((s.setHandle handle (some ⟨.strong, root⟩)).finish call).Sound := by
  have hhandle : ((s.setHandle handle (some ⟨.strong, root⟩)).finish call).handles handle =
      some ⟨.strong, root⟩ := update_self ..
  have hidle := finish_calls (s.setHandle handle (some ⟨.strong, root⟩)) call
  refine hs.passes (((Moves.refl s _).setHandle (.inr rfl) _).finish call (.inl rfl)) nofun
    (fun _ => rfl) (fun _ => rfl) ⟨holds_rootless ?_, ?_, holds_idle hidle⟩
    ⟨rfl, ?_, holdsLease_idle hidle⟩ (content_of_idle hidle) trivial
  · intro root' h
    rw [hfresh] at h
    cases h
  · rw [holds_strong hhandle, holds_call hphase]
    rfl
  · rw [holdsLease_call hphase]
    rfl

/-- A release takes the slot of a strong handle. -/
theorem Sound.takesHandle (hs : s.Sound) {root handle : Nat} (hidle : s.calls call = none)
    (hhandle : s.handles handle = some ⟨.strong, root⟩) :
    ((s.setHandle handle none).setCall call (.clear root .object)).Sound := by
  have hgone : ((s.setHandle handle none).setCall call (.clear root .object)).handles handle =
      none := update_self ..
  have hnext := setCall_calls (s.setHandle handle none) call (.clear root .object)
  refine hs.passes (((Moves.refl s _).setHandle (.inl rfl) _).setCall (.inr rfl) _) nofun
    (fun _ => rfl) (fun _ => rfl) ⟨holds_idle hidle, ?_, holds_rootless ?_⟩
    ⟨holdsLease_idle hidle, ?_, rfl⟩ trivial (content_of_phase hnext trivial)
  · rw [holds_call hnext, holds_strong hhandle]
    rfl
  · intro root' h
    rw [hgone] at h
    cases h
  · rw [holdsLease_call hnext]
    rfl

/-- A handle that owns no slot comes or goes. -/
theorem Sound.setsRootless (hs : s.Sound) {handle : Nat} (entry : Option RealHandle)
    (hbefore : ∀ root, s.handles handle ≠ some ⟨.strong, root⟩)
    (hafter : ∀ root, entry ≠ some ⟨.strong, root⟩) :
    (s.setHandle handle entry).Sound ∧ (s.setHandle handle entry).holds = s.holds := by
  have hentry : (s.setHandle handle entry).handles handle = entry := update_self ..
  have hholds : (s.setHandle handle entry).holds (.handle handle) = s.holds (.handle handle) := by
    rw [holds_rootless hbefore, holds_rootless (hentry.symm ▸ hafter)]
  have hm : s.Moves (s.setHandle handle entry) fun o => o = .handle handle :=
    (Moves.refl s fun o => o = .handle handle).setHandle rfl entry
  refine ⟨hs.of_quiet hm (fun _ => rfl) (fun _ => rfl) hholds rfl trivial, funext fun o => ?_⟩
  by_cases ho : o = .handle handle
  · rw [ho, hholds]
  · exact (hm.agrees hs o ho).holds_eq

/-! ## Setting and moving values -/

/-- `GeneratedRootSet` on a live lease. -/
theorem Sound.setsRoot (hs : s.Sound) {lease index : Nat} (hlive : s.live lease = true)
    (hindex : index < (s.leases lease).count) (raw : BitVec 64) :
    ((s.setRaw ((s.leases lease).slots index) raw).record (.stored lease index raw)).Sound := by
  have hholds : s.holds (.lease lease) = (s.leases lease).listed := holds_live hlive
  have hheld : (s.leases lease).slots index ∈ s.holds (.lease lease) := by
    rw [hholds]
    exact mem_map_of_mem (mem_range.mpr hindex)
  have hleased : lease ∈ s.holdsLease (.lease lease) :=
    holdsLease_live hlive ▸ mem_singleton_self lease
  have hm : s.Moves ((s.setRaw ((s.leases lease).slots index) raw).record
      (.stored lease index raw)) fun o => o = .lease lease :=
    ((Moves.refl s fun o => o = .lease lease).setRaw ⟨_, rfl, hheld⟩ raw).stored rfl
      ⟨_, rfl, hleased⟩ index raw
  obtain ⟨howner, hstored⟩ := hs.content (.lease lease) hlive
  refine hs.of_quiet hm (fun _ => setRaw_used) (fun _ => rfl) rfl rfl fun _ => ⟨howner, ?_⟩
  intro i hi
  have hi' : i < (s.leases lease).count := hi
  obtain ⟨given, hgiven⟩ := hstored i hi'
  by_cases heq : i = index
  · rw [heq]
    refine ⟨raw, (lastStored_stored_self lease index raw s.history).trans ?_⟩
    exact congrArg (fun now => some (raw, now)) setRaw_raw_self.symm
  · have hne : (s.leases lease).slots i ≠ (s.leases lease).slots index := by
      have hnodup := hs.roots.nodup (.lease lease)
      rw [hholds] at hnodup
      intro hsame
      exact heq (inj_on_of_nodup_map hnodup (mem_range.mpr hi')
        (mem_range.mpr hindex) hsame)
    refine ⟨given, (lastStored_stored_of_index_ne (Ne.symm heq) lease raw s.history).trans ?_⟩
    rw [hgiven]
    exact congrArg (fun now => some (given, now)) (setRaw_raw_of_ne hne).symm

theorem lastStored_moved {lease index : Nat} {given raw : BitVec 64} {history : List RootEvent}
    (h : lastStored lease index history = some (given, raw)) (move : BitVec 64 → BitVec 64) :
    lastStored lease index (.moved move :: history) = some (given, move raw) := by
  rw [lastStored, h]
  rfl

section Relocate
variable {move : BitVec 64 → BitVec 64}

theorem Pinned.relocate {values : List (BitVec 64)} {lease index : Nat}
    (h : s.Pinned values lease index) :
    ((s.relocate move).record (.moved move)).Pinned values lease index :=
  ⟨h.hasOwner, h.count, fun i hi => lastStored_moved (h.stored i hi) move⟩

theorem Unpinning.relocate {lease index : Nat} {out : List (BitVec 64)}
    (h : s.Unpinning lease index out) :
    ((s.relocate move).record (.moved move)).Unpinning lease index out := by
  refine ⟨h.length, h.count, fun i raw hi => (h.read i raw hi).cons id, fun i hle hlt => ?_⟩
  obtain ⟨given, hgiven⟩ := h.stored i hle hlt
  exact ⟨given, lastStored_moved hgiven move⟩

theorem releaseUser_relocate {user : ReleaseUser} (h : user.Proper s) :
    user.Proper ((s.relocate move).record (.moved move)) := by
  cases user with
  | unpin lease index out => exact Unpinning.relocate h
  | unwind | noLocal | weak | object => trivial

theorem proper_relocate (hnull : move s.nullRaw = s.nullRaw) {phase : RootCall}
    (h : phase.Proper s) : phase.Proper ((s.relocate move).record (.moved move)) := by
  cases phase with
  | claimLease | resetLease => exact h
  | acquire cursor user =>
    cases user with
    | pin values lease index => exact ⟨h.1, h.2.relocate⟩
    | retain => trivial
  | pinRoot values lease index root => exact ⟨h.1, h.2.relocate⟩
  | returnLease values lease => exact Pinned.relocate h
  | clear root user => exact releaseUser_relocate h
  | free root user =>
    refine ⟨?_, releaseUser_relocate h.2⟩
    show move (s.roots root).raw = s.nullRaw
    rw [h.1, hnull]
  | readRoot lease index out => exact ⟨h.1, h.2.relocate⟩
  | endUnpin lease out => exact Unpinning.relocate h
  | dropLease | retainRoot | makeLocal | makeHandle => trivial

/-- The collector moves the objects. -/
theorem Sound.relocates (hs : s.Sound) (hnull : move s.nullRaw = s.nullRaw) :
    ((s.relocate move).record (.moved move)).Sound where
  roots := hs.roots
  leases := hs.leases
  cleared := by
    intro root hfree
    show move (s.roots root).raw = s.nullRaw
    rw [hs.cleared root hfree, hnull]
  bounded := hs.bounded
  content := by
    intro o
    cases o with
    | lease lease =>
      intro hlive
      obtain ⟨howner, hstored⟩ := hs.content (.lease lease) hlive
      refine ⟨howner, fun i hi => ?_⟩
      obtain ⟨given, hgiven⟩ := hstored i hi
      exact ⟨given, lastStored_moved hgiven move⟩
    | handle handle => trivial
    | call call =>
      intro phase hphase
      exact proper_relocate hnull (hs.content (.call call) phase hphase)

end Relocate

end Call

end RootTable
end DartPlant
