import DartPlant.Vm.RootSlots

/-! # Who owns a root

A slot is owned by a live lease, by a live strong handle or by a call that is under way, and the
same goes for a lease.  `RootTable.Sound` is the invariant: the owners are exclusive, free slots
hold null, and every owner finds the values it put there, moved as the collector has moved them.

A step changes only what its own caller holds, so `RootTable.Agrees` carries the invariant over for
all other owners at once (`Sound.of_agrees`), and what remains of a step is its own call.
-/

namespace DartPlant
open Runs FlagOwners List

/-! ## Holdings -/

inductive RootOwner where
  | lease (lease : Nat)
  | handle (handle : Nat)
  | call (call : Nat)
  deriving DecidableEq, Repr

/-- The slots that are still to be released. -/
def ReleaseUser.roots (leases : Nat → RootLease) : ReleaseUser → List Nat
  | .unwind lease cursor => (leases lease).listed.drop cursor
  | .unpin lease index _ => (leases lease).listed.drop index
  | .noLocal | .weak _ | .object => []

def ReleaseUser.leases : ReleaseUser → List Nat
  | .unwind lease _ | .unpin lease _ _ => [lease]
  | .noLocal | .weak _ | .object => []

def AcquireUser.roots (leases : Nat → RootLease) : AcquireUser → List Nat
  | .pin _ lease _ => (leases lease).listed
  | .retain _ _ => []

def AcquireUser.leases : AcquireUser → List Nat
  | .pin _ lease _ => [lease]
  | .retain _ _ => []

/-- The slots a call holds. -/
def RootCall.roots (leases : Nat → RootLease) : RootCall → List Nat
  | .claimLease _ _ | .resetLease _ _ | .dropLease _ | .endUnpin _ _ => []
  | .acquire _ user => user.roots leases
  | .pinRoot _ lease _ root => (leases lease).listed ++ [root]
  | .returnLease _ lease => (leases lease).listed
  | .clear root user | .free root user => root :: user.roots leases
  | .readRoot lease index _ => (leases lease).listed.drop index
  | .retainRoot _ _ root | .makeLocal _ root | .makeHandle _ root => [root]

/-- The lease a call holds, if any. -/
def RootCall.leases : RootCall → List Nat
  | .claimLease _ _ | .retainRoot _ _ _ | .makeLocal _ _ | .makeHandle _ _ => []
  | .resetLease _ lease | .pinRoot _ lease _ _ | .returnLease _ lease | .dropLease lease
  | .readRoot lease _ _ | .endUnpin lease _ => [lease]
  | .acquire _ user => user.leases
  | .clear _ user | .free _ user => user.leases

theorem RootCall.roots_congr {leases leases' : Nat → RootLease} (phase : RootCall)
    (h : ∀ lease ∈ phase.leases, leases' lease = leases lease) :
    phase.roots leases' = phase.roots leases := by
  have hrelease : ∀ user : ReleaseUser, (∀ lease ∈ user.leases, leases' lease = leases lease) →
      user.roots leases' = user.roots leases := by
    intro user huser
    cases user with
    | unwind lease _ | unpin lease _ _ =>
      simp only [ReleaseUser.roots, huser lease (mem_singleton_self lease)]
    | noLocal | weak | object => rfl
  cases phase with
  | claimLease | resetLease | dropLease | endUnpin | retainRoot | makeLocal | makeHandle => rfl
  | acquire cursor user =>
    cases user with
    | pin values lease index =>
      simp only [roots, AcquireUser.roots, h lease (mem_singleton_self lease)]
    | retain => rfl
  | pinRoot _ lease _ _ | returnLease _ lease | readRoot lease _ _ =>
    simp only [roots, h lease (mem_singleton_self lease)]
  | clear root user | free root user => simp only [roots, hrelease user h]

namespace RootTable

/-- The slots an owner holds. -/
def holds (table : RootTable) : RootOwner → List Nat
  | .lease lease => if table.live lease then (table.leases lease).listed else []
  | .handle handle =>
    match table.handles handle with
    | some ⟨.strong, root⟩ => [root]
    | _ => []
  | .call call =>
    match table.calls call with
    | some phase => phase.roots table.leases
    | none => []

/-- The leases an owner holds. -/
def holdsLease (table : RootTable) : RootOwner → List Nat
  | .lease lease => if table.live lease then [lease] else []
  | .handle _ => []
  | .call call =>
    match table.calls call with
    | some phase => phase.leases
    | none => []

end RootTable

/-! ## What the owners find -/

/-- The event puts another value at an index of a lease. -/
def RootEvent.Stores (lease index : Nat) : RootEvent → Prop
  | .stored lease' index' _ => lease' = lease ∧ index' = index
  | .moved _ => False

/-- At some time since a value was last stored at the index, it was this one. -/
def WasHeld (lease index : Nat) (raw : BitVec 64) (history : List RootEvent) : Prop :=
  ∃ recent older given, history = recent ++ older ∧
    lastStored lease index older = some (given, raw) ∧
    ∀ event ∈ recent, ¬ event.Stores lease index

theorem WasHeld.of_lastStored {lease index : Nat} {given raw : BitVec 64}
    {history : List RootEvent} (h : lastStored lease index history = some (given, raw)) :
    WasHeld lease index raw history :=
  ⟨[], history, given, rfl, h, fun _ hevent => absurd hevent not_mem_nil⟩

theorem WasHeld.cons {lease index : Nat} {raw : BitVec 64} {history : List RootEvent}
    {event : RootEvent} (h : WasHeld lease index raw history)
    (hevent : ¬ event.Stores lease index) : WasHeld lease index raw (event :: history) := by
  obtain ⟨recent, older, given, rfl, hgiven, hrecent⟩ := h
  exact ⟨event :: recent, older, given, rfl, hgiven,
    forall_mem_cons.mpr ⟨hevent, hrecent⟩⟩

namespace RootLease
variable {lease : RootLease} {i j : Nat}

theorem mem_listed_drop (hij : i ≤ j) (hj : j < lease.count) :
    lease.slots j ∈ lease.listed.drop i := by
  unfold listed
  rw [← map_drop]
  refine mem_map_of_mem (mem_drop_iff_getElem.mpr ⟨j - i, ?_, ?_⟩)
  · rw [length_range]
    omega
  · rw [getElem_range]
    omega

theorem listed_drop (hi : i < lease.count) :
    lease.listed.drop i = lease.slots i :: lease.listed.drop (i + 1) := by
  have hlength : i < lease.listed.length := by
    rw [listed, length_map, length_range]
    exact hi
  rw [drop_eq_getElem_cons hlength]
  simp only [listed, getElem_map, getElem_range]

theorem listed_drop_eq_nil (hi : lease.count ≤ i) : lease.listed.drop i = [] := by
  refine drop_eq_nil_of_le ?_
  rw [listed, length_map, length_range]
  exact hi

theorem listed_push (lease : RootLease) (root : Nat) :
    (lease.push lease.count root).listed = lease.listed ++ [root % 2 ^ 16] := by
  have hold : (List.range lease.count).map (Function.update lease.slots lease.count (root % 2 ^ 16))
      = (List.range lease.count).map lease.slots := by
    refine map_congr_left fun i hi => Function.update_of_ne ?_ _ _
    exact Nat.ne_of_lt (mem_range.mp hi)
  simp only [listed, push, range_succ, map_append, map_singleton, hold,
    Function.update_self]

end RootLease

theorem lastStored_stored_self (lease index : Nat) (raw : BitVec 64) (history : List RootEvent) :
    lastStored lease index (.stored lease index raw :: history) = some (raw, raw) :=
  if_pos ⟨rfl, rfl⟩

theorem lastStored_stored_of_index_ne {index index' : Nat} (hne : index' ≠ index) (lease : Nat)
    (raw : BitVec 64) (history : List RootEvent) :
    lastStored lease index (.stored lease index' raw :: history) =
      lastStored lease index history :=
  if_neg fun h => hne h.2

theorem lastStored_stored_of_ne {lease lease' : Nat} (hne : lease' ≠ lease) (index index' : Nat)
    (raw : BitVec 64) (history : List RootEvent) :
    lastStored lease index (.stored lease' index' raw :: history) =
      lastStored lease index history :=
  if_neg fun h => hne h.1

namespace RootTable

/-- The raw value in the slot that a lease lists at an index. -/
def rawAt (table : RootTable) (lease index : Nat) : BitVec 64 :=
  (table.roots ((table.leases lease).slots index)).raw

/-- The values of a pin are in the first slots of its lease. -/
structure Pinned (table : RootTable) (values : List (BitVec 64)) (lease index : Nat) : Prop where
  hasOwner : (table.leases lease).hasOwner = true
  count : (table.leases lease).count = index
  stored : ∀ i < index,
    lastStored lease i table.history = some (values.getD i 0, table.rawAt lease i)

/-- What was read by an unpin was there, and the rest still is. -/
structure Unpinning (table : RootTable) (lease index : Nat) (out : List (BitVec 64)) : Prop where
  length : out.length = index
  count : index ≤ (table.leases lease).count
  read : ∀ i raw, out[i]? = some raw → WasHeld lease i raw table.history
  stored : ∀ i, index ≤ i → i < (table.leases lease).count →
    ∃ given, lastStored lease i table.history = some (given, table.rawAt lease i)

end RootTable

def ReleaseUser.Proper (table : RootTable) : ReleaseUser → Prop
  | .unpin lease index out => table.Unpinning lease index out
  | .unwind _ _ | .noLocal | .weak _ | .object => True

def AcquireUser.Proper (table : RootTable) : AcquireUser → Prop
  | .pin values lease index => index < values.length ∧ table.Pinned values lease index
  | .retain _ _ => True

/-- What a call relies on. -/
def RootCall.Proper (table : RootTable) : RootCall → Prop
  | .claimLease values _ | .resetLease values _ => values ≠ []
  | .acquire _ user => user.Proper table
  | .pinRoot values lease index _ => index < values.length ∧ table.Pinned values lease index
  | .returnLease values lease => table.Pinned values lease values.length
  | .clear _ user => user.Proper table
  | .free root user => (table.roots root).raw = table.nullRaw ∧ user.Proper table
  | .readRoot lease index out =>
    index < (table.leases lease).count ∧ table.Unpinning lease index out
  | .endUnpin lease out => table.Unpinning lease (table.leases lease).count out
  | .dropLease _ | .retainRoot _ _ _ | .makeLocal _ _ | .makeHandle _ _ => True

namespace RootTable

/-- What an owner relies on. -/
def Content (table : RootTable) : RootOwner → Prop
  | .lease lease => table.live lease = true →
    (table.leases lease).hasOwner = true ∧ ∀ i < (table.leases lease).count,
      ∃ given, lastStored lease i table.history = some (given, table.rawAt lease i)
  | .handle _ => True
  | .call call => ∀ phase, table.calls call = some phase → phase.Proper table

/-- The invariant. -/
structure Sound (table : RootTable) : Prop where
  roots : Exclusive (fun root => (table.roots root).used) table.holds
  leases : Exclusive (fun lease => (table.leases lease).used) table.holdsLease
  cleared : ∀ root, (table.roots root).used = false → (table.roots root).raw = table.nullRaw
  bounded : ∀ o, ∀ root ∈ table.holds o, root < kRootSlotCount
  content : ∀ o, table.Content o

theorem Sound.init (nullRaw : BitVec 64) (identity : DartPlantIsolateIdentity) :
    (RootTable.init nullRaw identity).Sound where
  roots := exclusive_empty.keep fun o => by cases o <;> rfl
  leases := exclusive_empty.keep fun o => by cases o <;> rfl
  cleared := fun _ _ => rfl
  bounded := by
    intro o root hroot
    cases o <;> cases hroot
  content := by
    intro o
    cases o with
    | lease lease => exact nofun
    | handle handle => trivial
    | call call => exact nofun

/-! ## Steps and the other owners -/

def SameEntry (s t : RootTable) : RootOwner → Prop
  | .lease lease => t.live lease = s.live lease
  | .handle handle => t.handles handle = s.handles handle
  | .call call => t.calls call = s.calls call

/-- Nothing has changed in these leases, slots and what was stored under the leases. -/
structure Frame (s t : RootTable) (held roots : List Nat) : Prop where
  leases : ∀ lease ∈ held, t.leases lease = s.leases lease
  raws : ∀ root ∈ roots, (t.roots root).raw = (s.roots root).raw
  history : t.history = s.history ∨ ∃ lease index raw,
    t.history = .stored lease index raw :: s.history ∧ lease ∉ held
  nullRaw : t.nullRaw = s.nullRaw

/-- Nothing has changed that the owner can see. -/
structure Agrees (s t : RootTable) (o : RootOwner) : Prop where
  entry : s.SameEntry t o
  frame : s.Frame t (s.holdsLease o) (s.holds o)

namespace Frame
variable {s t : RootTable} {held roots : List Nat} {lease : Nat}

theorem lastStored_eq (h : s.Frame t held roots) (hlease : lease ∈ held) (index : Nat) :
    lastStored lease index t.history = lastStored lease index s.history := by
  obtain heq | ⟨lease', index', raw, heq, hout⟩ := h.history
  · rw [heq]
  · have hne : lease' ≠ lease := fun hsame => hout (hsame ▸ hlease)
    rw [heq, lastStored_stored_of_ne hne]

theorem wasHeld (h : s.Frame t held roots) (hlease : lease ∈ held) {index : Nat}
    {raw : BitVec 64} (hheld : WasHeld lease index raw s.history) :
    WasHeld lease index raw t.history := by
  obtain heq | ⟨lease', index', raw', heq, hout⟩ := h.history
  · rw [heq]
    exact hheld
  · rw [heq]
    exact hheld.cons fun hsame => hout (hsame.1 ▸ hlease)

theorem rawAt_eq (h : s.Frame t held roots) (hlease : lease ∈ held) {index : Nat}
    (hroot : (s.leases lease).slots index ∈ roots) : t.rawAt lease index = s.rawAt lease index := by
  unfold rawAt
  rw [h.leases lease hlease]
  exact h.raws _ hroot

theorem pinned (h : s.Frame t held roots) (hlease : lease ∈ held)
    (hroots : ∀ root ∈ (s.leases lease).listed, root ∈ roots) {values : List (BitVec 64)}
    {index : Nat} (hpinned : s.Pinned values lease index) : t.Pinned values lease index := by
  have hsame := h.leases lease hlease
  refine ⟨hsame.symm ▸ hpinned.hasOwner, hsame.symm ▸ hpinned.count, fun i hi => ?_⟩
  have hroot : (s.leases lease).slots i ∈ (s.leases lease).listed :=
    mem_map_of_mem (mem_range.mpr (hpinned.count ▸ hi))
  rw [h.lastStored_eq hlease, h.rawAt_eq hlease (hroots _ hroot)]
  exact hpinned.stored i hi

theorem unpinning (h : s.Frame t held roots) (hlease : lease ∈ held) {index : Nat}
    (hroots : ∀ root ∈ (s.leases lease).listed.drop index, root ∈ roots)
    {out : List (BitVec 64)} (hunpin : s.Unpinning lease index out) :
    t.Unpinning lease index out := by
  have hsame := h.leases lease hlease
  refine ⟨hunpin.length, hsame.symm ▸ hunpin.count, fun i raw hi => ?_, fun i hindex hi => ?_⟩
  · exact h.wasHeld hlease (hunpin.read i raw hi)
  · rw [hsame] at hi
    obtain ⟨given, hgiven⟩ := hunpin.stored i hindex hi
    have hroot := hroots _ (RootLease.mem_listed_drop hindex hi)
    exact ⟨given, by rw [h.lastStored_eq hlease, h.rawAt_eq hlease hroot, hgiven]⟩

theorem releaseUser (user : ReleaseUser) (h : s.Frame t user.leases roots)
    (hroots : ∀ root ∈ user.roots s.leases, root ∈ roots) (hproper : user.Proper s) :
    user.Proper t := by
  cases user with
  | unpin lease index out =>
    exact h.unpinning (mem_singleton_self lease) hroots hproper
  | unwind | noLocal | weak | object => trivial

theorem acquireUser (user : AcquireUser) (h : s.Frame t user.leases (user.roots s.leases))
    (hproper : user.Proper s) : user.Proper t := by
  cases user with
  | pin values lease index =>
    exact ⟨hproper.1, h.pinned (mem_singleton_self lease) (fun _ hroot => hroot) hproper.2⟩
  | retain => trivial

/-- A call that can see no change goes on as before. -/
theorem proper (phase : RootCall) (h : s.Frame t phase.leases (phase.roots s.leases))
    (hproper : phase.Proper s) : phase.Proper t := by
  cases phase with
  | claimLease | resetLease => exact hproper
  | acquire cursor user => exact h.acquireUser user hproper
  | pinRoot values lease index root =>
    refine ⟨hproper.1, h.pinned (mem_singleton_self lease) ?_ hproper.2⟩
    exact fun _ hroot => mem_append_left _ hroot
  | returnLease values lease =>
    exact h.pinned (mem_singleton_self lease) (fun _ hroot => hroot) hproper
  | clear root user =>
    exact releaseUser user h (fun _ hroot => mem_cons_of_mem _ hroot) hproper
  | free root user =>
    refine ⟨?_, releaseUser user h (fun _ hroot => mem_cons_of_mem _ hroot) hproper.2⟩
    rw [h.raws root mem_cons_self, h.nullRaw]
    exact hproper.1
  | readRoot lease index out =>
    have hlease : lease ∈ [lease] := mem_singleton_self lease
    refine ⟨?_, h.unpinning hlease (fun _ hroot => hroot) hproper.2⟩
    rw [h.leases lease hlease]
    exact hproper.1
  | endUnpin lease out =>
    have hlease : lease ∈ [lease] := mem_singleton_self lease
    show t.Unpinning lease (t.leases lease).count out
    rw [h.leases lease hlease]
    refine h.unpinning hlease ?_ hproper
    rw [RootLease.listed_drop_eq_nil (Nat.le_refl _)]
    exact fun _ hroot => absurd hroot not_mem_nil
  | dropLease | retainRoot | makeLocal | makeHandle => trivial

end Frame

/-! ### Agreement -/

section Agreement
variable {s t : RootTable} {o : RootOwner}

theorem holds_call {table : RootTable} {call : Nat} {phase : RootCall}
    (h : table.calls call = some phase) : table.holds (.call call) = phase.roots table.leases := by
  simp only [holds, h]

theorem holdsLease_call {table : RootTable} {call : Nat} {phase : RootCall}
    (h : table.calls call = some phase) : table.holdsLease (.call call) = phase.leases := by
  simp only [holdsLease, h]

theorem holds_idle {table : RootTable} {call : Nat} (h : table.calls call = none) :
    table.holds (.call call) = [] := by
  simp only [holds, h]

theorem holdsLease_idle {table : RootTable} {call : Nat} (h : table.calls call = none) :
    table.holdsLease (.call call) = [] := by
  simp only [holdsLease, h]

theorem Agrees.holdsLease_eq (h : s.Agrees t o) : t.holdsLease o = s.holdsLease o := by
  cases o with
  | lease lease => simp only [holdsLease, show t.live lease = s.live lease from h.entry]
  | handle handle => rfl
  | call call => simp only [holdsLease, show t.calls call = s.calls call from h.entry]

theorem Agrees.holds_eq (h : s.Agrees t o) : t.holds o = s.holds o := by
  have hleases := h.frame.leases
  cases o with
  | lease lease =>
    simp only [holds, show t.live lease = s.live lease from h.entry]
    split
    next hlive =>
      rw [hleases lease]
      simp only [holdsLease, hlive, if_true, mem_singleton]
    next => rfl
  | handle handle => simp only [holds, show t.handles handle = s.handles handle from h.entry]
  | call call =>
    have hentry : t.calls call = s.calls call := h.entry
    cases hphase : s.calls call with
    | none => rw [holds_idle hphase, holds_idle (hentry.trans hphase)]
    | some phase =>
      rw [holds_call hphase, holds_call (hentry.trans hphase)]
      rw [holdsLease_call hphase] at hleases
      exact phase.roots_congr hleases

/-- An owner that can see no change finds what it relies on. -/
theorem Agrees.content (h : s.Agrees t o) (hcontent : s.Content o) : t.Content o := by
  cases o with
  | lease lease =>
    intro hlive
    have hlive' : s.live lease = true := (show t.live lease = s.live lease from h.entry) ▸ hlive
    obtain ⟨howner, hstored⟩ := hcontent hlive'
    have hheld : lease ∈ s.holdsLease (.lease lease) := by
      simp only [holdsLease, hlive', if_true, mem_singleton]
    rw [h.frame.leases lease hheld]
    refine ⟨howner, fun i hi => ?_⟩
    obtain ⟨given, hgiven⟩ := hstored i hi
    have hroot : (s.leases lease).slots i ∈ s.holds (.lease lease) := by
      simp only [holds, hlive', if_true]
      exact mem_map_of_mem (mem_range.mpr hi)
    exact ⟨given, by rw [h.frame.lastStored_eq hheld, h.frame.rawAt_eq hheld hroot, hgiven]⟩
  | handle handle => trivial
  | call call =>
    intro phase hphase
    have hphase' : s.calls call = some phase :=
      (show t.calls call = s.calls call from h.entry) ▸ hphase
    refine Frame.proper phase ?_ (hcontent phase hphase')
    rw [← holdsLease_call hphase', ← holds_call hphase']
    exact h.frame

/-- What a step changes belongs to those who take part in it, or to nobody. -/
theorem Sound.agrees (h : s.Sound) {acts : RootOwner → Prop} {o : RootOwner} (ho : ¬ acts o)
    (hentry : s.SameEntry t o)
    (hleases : ∀ lease, t.leases lease = s.leases lease ∨ (s.leases lease).used = false ∨
      ∃ o, acts o ∧ lease ∈ s.holdsLease o)
    (hraws : ∀ root, (t.roots root).raw = (s.roots root).raw ∨ ∃ o, acts o ∧ root ∈ s.holds o)
    (hhistory : t.history = s.history ∨ ∃ lease index raw,
      t.history = .stored lease index raw :: s.history ∧ ∃ o, acts o ∧ lease ∈ s.holdsLease o)
    (hnull : t.nullRaw = s.nullRaw) : s.Agrees t o := by
  have hother : ∀ lease, lease ∈ s.holdsLease o → ¬ ∃ o, acts o ∧ lease ∈ s.holdsLease o := by
    rintro lease hheld ⟨o', hacts, hheld'⟩
    exact ho (h.leases.sole o o' lease hheld hheld' ▸ hacts)
  refine ⟨hentry, ?_, ?_, ?_, hnull⟩
  · intro lease hheld
    obtain heq | hfree | hacts := hleases lease
    · exact heq
    · exact absurd hheld (h.leases.notMem hfree o)
    · exact absurd hacts (hother lease hheld)
  · intro root hheld
    obtain heq | ⟨o', hacts, hheld'⟩ := hraws root
    · exact heq
    · exact absurd (h.roots.sole o o' root hheld hheld' ▸ hacts) ho
  · obtain heq | ⟨lease, index, raw, heq, hacts⟩ := hhistory
    · exact .inl heq
    · exact .inr ⟨lease, index, raw, heq, fun hheld => hother lease hheld hacts⟩

/-- The invariant after a step, from what the step does to those who take part in it. -/
theorem Sound.of_agrees (h : s.Sound) {acts : RootOwner → Prop}
    (hothers : ∀ o, ¬ acts o → s.Agrees t o)
    (hroots : Exclusive (fun root => (t.roots root).used) t.holds)
    (hleases : Exclusive (fun lease => (t.leases lease).used) t.holdsLease)
    (hcleared : ∀ root, (t.roots root).used = false → (t.roots root).raw = t.nullRaw)
    (hbounded : ∀ o, acts o → ∀ root ∈ t.holds o, root < kRootSlotCount)
    (hcontent : ∀ o, acts o → t.Content o) : t.Sound := by
  refine ⟨hroots, hleases, hcleared, fun o => ?_, fun o => ?_⟩
  · by_cases hacts : acts o
    · exact hbounded o hacts
    · rw [(hothers o hacts).holds_eq]
      exact h.bounded o
  · by_cases hacts : acts o
    · exact hcontent o hacts
    · exact (hothers o hacts).content (h.content o)

end Agreement

end RootTable

end DartPlant
