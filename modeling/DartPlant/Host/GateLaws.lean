import DartPlant.Host.PublicationGate

/-! # The gate operations on a state and a count

The code works on one packed word.  Read as a state and an entrant count, each operation is a case
distinction on that pair, and this module proves it: under `p.gate.control = encodeGateControl s n`
every operation either leaves the hook alone or sets the pair (`setControl`).  No later proof unfolds
an operation of `DartPlant.Host.PublicationGate` or looks at the word.
-/

namespace DartPlant
open PackedWord

theorem encodeGateControl_eq_pack (s : HostPublicationGateState) (n : BitVec 32) :
    encodeGateControl s n = pack n s.toWord := rfl

theorem HostPublicationGateState.toWord_inj {s t : HostPublicationGateState} :
    s.toWord = t.toWord ↔ s = t := by
  constructor
  · intro h
    cases s <;> cases t <;> first | rfl | exact absurd h (by decide)
  · rintro rfl
    rfl

/-- The encoding loses nothing: equal words have equal states and equal counts. -/
theorem encodeGateControl_inj {s t : HostPublicationGateState} {n m : BitVec 32} :
    encodeGateControl s n = encodeGateControl t m ↔ s = t ∧ n = m := by
  rw [encodeGateControl_eq_pack, encodeGateControl_eq_pack, pack_inj,
    HostPublicationGateState.toWord_inj, and_comm]

theorem toWord_setWidth (s : HostPublicationGateState) :
    s.toWord.setWidth 64 = encodeGateControl s 0#32 :=
  setWidth_eq_pack s.toWord

/-- The hook with its gate word set to a state and a count. -/
def PublishedHostHook.setControl (p : PublishedHostHook) (s : HostPublicationGateState)
    (n : BitVec 32) : PublishedHostHook :=
  { p with gate := { p.gate with control := encodeGateControl s n } }

section SetControl
variable (p : PublishedHostHook) (s : HostPublicationGateState) (n : BitVec 32)

@[simp] theorem setControl_control : (p.setControl s n).gate.control = encodeGateControl s n := rfl
@[simp] theorem setControl_callbackEntry :
    (p.setControl s n).gate.callbackEntry = p.gate.callbackEntry := rfl
@[simp] theorem setControl_backup : (p.setControl s n).gate.backup = p.gate.backup := rfl
@[simp] theorem setControl_gate_target : (p.setControl s n).gate.target = p.gate.target := rfl
@[simp] theorem setControl_binding : (p.setControl s n).binding = p.binding := rfl
@[simp] theorem setControl_backendInstalled :
    (p.setControl s n).backendInstalled = p.backendInstalled := rfl
@[simp] theorem setControl_trackGeneratedEntrants :
    (p.setControl s n).trackGeneratedEntrants = p.trackGeneratedEntrants := rfl

end SetControl

section Operations
variable {p : PublishedHostHook} {s : HostPublicationGateState} {n : BitVec 32}

theorem loadGateState_eq {g : HostPublicationGate} (h : g.control = encodeGateControl s n) :
    loadGateState g = s.toWord := by
  have hlow : loadGateState g = low (g.control &&& lowMask) := rfl
  rw [hlow, low_and_lowMask, h, encodeGateControl_eq_pack, low_pack]

variable (h : p.gate.control = encodeGateControl s n)
include h

theorem low_control : low p.gate.control = s.toWord := by
  rw [h, encodeGateControl_eq_pack, low_pack]

theorem control_replace (t : HostPublicationGateState) :
    (p.gate.control &&& ~~~lowMask) ||| t.toWord.setWidth 64 = encodeGateControl t n := by
  rw [h, encodeGateControl_eq_pack, replace_low]
  rfl

theorem control_shift : p.gate.control >>> 32 = 0#64 ↔ n = 0#32 := by
  rw [h, encodeGateControl_eq_pack, pack_shift_eq_zero]

/-- Storing a state keeps the count. -/
theorem storeGateState_eq (t : HostPublicationGateState) :
    { p with gate := storeGateState p.gate t } = p.setControl t n := by
  simp only [storeGateState, PublishedHostHook.setControl, control_replace h t]

omit h in
theorem storeGateState_control {g : HostPublicationGate} (h : g.control = encodeGateControl s n)
    (t : HostPublicationGateState) :
    (storeGateState g t).control = encodeGateControl t n := by
  simp only [storeGateState]
  rw [h, encodeGateControl_eq_pack, replace_low]
  rfl

/-- Arming needs an installed backend and a backup, and then never looks at the old state. -/
theorem armPublishedHostHook_eq : armPublishedHostHook p =
      if p.backendInstalled = true ∧ p.gate.backup ≠ nullptr then p.setControl .armed n else p := by
  unfold armPublishedHostHook
  by_cases hb : p.backendInstalled = true ∧ p.gate.backup ≠ nullptr
  · rw [if_neg (by simp [hb.1, hb.2]), if_pos hb, storeGateState_eq h]
  · rw [if_pos, if_neg hb]
    by_cases hi : p.backendInstalled = true
    · exact Or.inr (not_not.mp fun hne => hb ⟨hi, hne⟩)
    · exact Or.inl (by simpa using hi)

/-- Only an armed gate starts to drain. -/
theorem beginDrainPublishedHostHook_eq : beginDrainPublishedHostHook p =
      if p.backendInstalled = true ∧ s = .armed then p.setControl .draining n else p := by
  unfold beginDrainPublishedHostHook
  cases hb : p.backendInstalled with
  | false => simp
  | true =>
    simp only [low_control h, HostPublicationGateState.toWord_inj, control_replace h, ne_eq,
      true_and, Bool.true_eq_false, if_false, PublishedHostHook.setControl]
    cases s <;> simp [hb]

/-- A gate closes from the states in which no pin is outstanding and none can be taken, and from
draining; a closed gate answers for its count. -/
theorem closePublishedHostHook_eq : closePublishedHostHook p =
      if p.backendInstalled = false then (p, false) else if s = .closed then (p, decide (n = 0#32))
      else if (s = .draining ∨ s = .installing ∨ s = .bypassBackup) ∧ n = 0#32 then
        (p.setControl .closed 0#32, true) else (p, false) := by
  unfold closePublishedHostHook
  cases hb : p.backendInstalled with
  | false => simp
  | true =>
    simp only [low_control h, HostPublicationGateState.toWord_inj, control_shift h, ne_eq,
      toWord_setWidth, Bool.true_eq_false, if_false]
    cases s <;> by_cases hn : n = 0#32 <;> simp [hn, PublishedHostHook.setControl, hb]

/-- Only a closed gate without entrants reopens. -/
theorem reopenPublishedHostHookDrain_eq : reopenPublishedHostHookDrain p =
      if p.backendInstalled = true ∧ s = .closed ∧ n = 0#32 then p.setControl .draining 0#32
      else p := by
  unfold reopenPublishedHostHookDrain
  simp only [h, toWord_setWidth, encodeGateControl_inj, PublishedHostHook.setControl]
  cases hb : p.backendInstalled with
  | false => simp
  | true => simp

theorem publishedHostHookEntrantCount_eq : publishedHostHookEntrantCount p = n := by
  have hhigh : publishedHostHookEntrantCount p = high p.gate.control := rfl
  rw [hhigh, h, encodeGateControl_eq_pack, high_pack]

theorem publishedHostHookEntrantsIdle_eq : publishedHostHookEntrantsIdle p = decide (n = 0#32) := by
  simp only [publishedHostHookEntrantsIdle, publishedHostHookEntrantCount_eq h]
  rfl

/-- A release gives one pin back, and never one that is not there. -/
theorem releasePublishedHostHookEntrant_eq : releasePublishedHostHookEntrant p =
      if p.trackGeneratedEntrants = true ∧ n ≠ 0#32 then p.setControl s (n - 1#32) else p := by
  unfold releasePublishedHostHookEntrant
  cases ht : p.trackGeneratedEntrants with
  | false => simp
  | true =>
    by_cases hn : n = 0#32
    · rw [if_neg (by simp), if_pos ((control_shift h).mpr hn), if_neg (by simp [hn])]
    · rw [if_neg (by simp), if_neg fun hz => hn ((control_shift h).mp hz), if_pos ⟨rfl, hn⟩]
      simp only [h, encodeGateControl_eq_pack, pack_sub_highOne, PublishedHostHook.setControl, ht]

theorem control_full : p.gate.control >>> 32 = 0xffffffff#64 ↔ n = 0xffffffff#32 := by
  rw [h, encodeGateControl_eq_pack, pack_shift]
  constructor
  · intro hmax
    apply BitVec.eq_of_toNat_eq
    have hm := congrArg BitVec.toNat hmax
    have hn := n.isLt
    simp only [BitVec.toNat_setWidth, BitVec.toNat_ofNat] at hm ⊢
    omega
  · rintro rfl
    rfl

/-- What an entrant is given in each state. -/
theorem acquirePublishedHostHookRoute_eq : acquirePublishedHostHookRoute p = match s with
      | .installing | .closed => none | .bypassTarget => some (p, .target)
      | .bypassBackup => some (p, .backup) | .failed => some (p, .trap) | .armed | .draining =>
        if p.trackGeneratedEntrants = false then some (p, .callback false)
        else if n = 0xffffffff#32 then some (p, .trap)
        else some (p.setControl s (n + 1#32), .callback true) := by
  have hpin : p.gate.control + highOne = encodeGateControl s (n + 1#32) := by
    rw [h, encodeGateControl_eq_pack, pack_add_highOne]
    rfl
  unfold acquirePublishedHostHookRoute
  simp only [loadGateState_eq h, HostPublicationGateState.toWord_inj, control_full h, hpin, ne_eq]
  cases s <;> simp [PublishedHostHook.setControl]

end Operations

/-! ## What no operation changes -/

section Binding
variable (p : PublishedHostHook)

theorem armPublishedHostHook_binding : (armPublishedHostHook p).binding = p.binding := by
  unfold armPublishedHostHook
  split <;> rfl

theorem beginDrainPublishedHostHook_binding :
    (beginDrainPublishedHostHook p).binding = p.binding := by
  unfold beginDrainPublishedHostHook
  dsimp only
  split
  · rfl
  · split
    · rfl
    · split <;> rfl

theorem closePublishedHostHook_binding : (closePublishedHostHook p).1.binding = p.binding := by
  unfold closePublishedHostHook
  dsimp only
  split
  · rfl
  · split
    · rfl
    · split
      · rfl
      · split <;> rfl

theorem reopenPublishedHostHookDrain_binding :
    (reopenPublishedHostHookDrain p).binding = p.binding := by
  unfold reopenPublishedHostHookDrain
  split
  · rfl
  · split <;> rfl

end Binding

/-! ## Preparation and installation -/

/-- A successful preparation leaves a blocking idle gate that its host can take back. -/
theorem preparePublishedHostHook_ok {published p : PublishedHostHook}
    {binding : Option HostApiBinding} {target callbackEntry testingGateEntry : Address}
    {track : Bool} {stub : Address × Nat}
    (h : preparePublishedHostHook published binding target callbackEntry track testingGateEntry
      stub = (p, .ok ())) :
    p.gate.control = encodeGateControl .installing 0#32 ∧ p.trackGeneratedEntrants = track ∧
      hostCanUnhook p = true := by
  unfold preparePublishedHostHook at h
  cases binding with
  | none => simp only [Prod.mk.injEq, reduceCtorEq, and_false] at h
  | some host =>
    dsimp only at h
    split at h
    · simp only [Prod.mk.injEq, reduceCtorEq, and_false] at h
    · next hvalid =>
      have hunhook : host.unhook = true :=
        Bool.not_eq_false _ ▸ fun hf => hvalid (Or.inr (Or.inr (Or.inl hf)))
      split at h
      · simp only [Prod.mk.injEq, and_true] at h
        rw [← h]
        exact ⟨rfl, rfl, hunhook⟩
      · split at h
        · simp only [Prod.mk.injEq, reduceCtorEq, and_false] at h
        · simp only [Prod.mk.injEq, and_true] at h
          rw [← h]
          exact ⟨rfl, rfl, hunhook⟩

/-- A successful installation owns the backend, has a backup and has not touched the gate word. -/
theorem installPublishedHostHook_ok {p q : PublishedHostHook} {host : HostHookOutcome}
    {backup : Address} (h : installPublishedHostHook p host = (q, .ok backup)) :
    q.gate.control = p.gate.control ∧ q.trackGeneratedEntrants = p.trackGeneratedEntrants ∧
      hostCanUnhook q = hostCanUnhook p ∧ q.backendInstalled = true ∧
      q.gate.backup ≠ nullptr := by
  unfold installPublishedHostHook at h
  cases hb : p.binding with
  | none => simp only [hb, Prod.mk.injEq, reduceCtorEq, and_false] at h
  | some binding =>
    simp only [hb] at h
    split at h
    · simp only [Prod.mk.injEq, reduceCtorEq, and_false] at h
    · split at h
      · simp only [Prod.mk.injEq, reduceCtorEq, and_false] at h
      · split at h
        · simp only [Prod.mk.injEq, reduceCtorEq, and_false] at h
        · next hbackup =>
          simp only [Prod.mk.injEq, Except.ok.injEq] at h
          obtain ⟨rfl, -⟩ := h
          exact ⟨rfl, rfl, by simp only [hostCanUnhook, hb], rfl, hbackup⟩

end DartPlant
