import DartPlant.Interceptor.DirectBranches
import DartPlant.Interceptor.NearStubPages
import DartPlant.Lib.MemoryFields
import DartPlant.Lib.Runs

/-! # Shared veneers

A veneer is a slot of 32 bytes that loads a cookie and branches to a dispatcher.  A page of slots is
written once, when it is taken: each slot with the dispatcher of its place and with the address of a
cookie cell of its own, which is outside the page.  A slot is issued later, by storing the cookie
into its cell.
-/

namespace DartPlant
open Extents ByteMemory Runs List

/-! ## Pages of slots -/

inductive SharedVeneerKind where
  | callback
  | returnEntry
  | generatedGate
  deriving DecidableEq, Repr

/-- `kSlotSize`. -/
def kSlotSize : Nat := 32

/-- A cookie cell, and whether its slot is issued; a cookie of zero is none. -/
structure SharedVeneerSlot where
  cookie : Nat := 0
  issued : Bool := false
  deriving DecidableEq, Repr

/-- A page, with the address of its cells. -/
structure SharedVeneerPage where
  base : Nat
  pageSize : Nat
  slotCount : Nat
  slots : List SharedVeneerSlot
  slotsAddress : Address
  deriving Repr

open SharedVeneerPage

/-- `SharedVeneerRange`. -/
def sharedVeneerRange (kind : SharedVeneerKind) (count : Nat) : Nat × Nat :=
  match kind with
  | .callback => (0, count / 3)
  | .returnEntry => (count / 3, 2 * (count / 3))
  | .generatedGate => (2 * (count / 3), count)

/-- The kind that a slot is written for. -/
def slotKind (index slotCount : Nat) : SharedVeneerKind :=
  if index < slotCount / 3 then .callback
  else if index < 2 * (slotCount / 3) then .returnEntry
  else .generatedGate

/-- The words of a veneer, relative to it: the address of the cell is loaded from 16 bytes after the
first instruction, the dispatcher from 16 bytes after the third. -/
def veneerFields (cell dispatcher : Address) : List Field :=
  [⟨0, 4, 0x58000091⟩, ⟨4, 4, 0xc8dffe31⟩, ⟨8, 4, 0x58000090⟩, ⟨12, 4, 0xd61f0200⟩,
    ⟨16, 8, cell.toNat⟩, ⟨24, 8, dispatcher.toNat⟩]

namespace SharedVeneerPage

def extent (page : SharedVeneerPage) : Extent := ⟨page.base, page.pageSize⟩

def entry (page : SharedVeneerPage) (index : Nat) : Nat := page.base + index * kSlotSize

/-- The address of a slot's cookie; a `SharedVeneerSlot` has 16 bytes. -/
def cell (page : SharedVeneerPage) (index : Nat) : Address :=
  page.slotsAddress + BitVec.ofNat 64 (index * 16)

def canIssue (page : SharedVeneerPage) (target index : Nat) : Bool :=
  match page.slots[index]? with
  | some slot =>
    !slot.issued && nearSpanFits (page.entry index) kSlotSize target kArm64BranchReach
  | none => false

/-- The slot that `issue` chooses. -/
def firstSlot (page : SharedVeneerPage) (kind : SharedVeneerKind) (target : Nat) : Option Nat :=
  let range := sharedVeneerRange kind page.slotCount
  (List.range' range.1 (range.2 - range.1)).find? (page.canIssue target)

/-- `issue`: the entry and the page after it. -/
def issue (page : SharedVeneerPage) (kind : SharedVeneerKind) (cookie target pageSize : Nat) :
    Option (Nat × SharedVeneerPage) :=
  if page.pageSize ≠ pageSize then none
  else (page.firstSlot kind target).map fun index =>
    (page.entry index, { page with slots := page.slots.set index ⟨cookie, true⟩ })

/-- What the loop over the slots of a new page writes. -/
def fields (page : SharedVeneerPage) (dispatcher : SharedVeneerKind → Address) : List Field :=
  (List.range page.slotCount).flatMap fun index =>
    (veneerFields (page.cell index) (dispatcher (slotKind index page.slotCount))).map fun field =>
      { field with offset := index * kSlotSize + field.offset }

end SharedVeneerPage

/-- The loop over the pages: the first entry that one of them issues. -/
def issueFirst (kind : SharedVeneerKind) (cookie target pageSize : Nat) :
    List SharedVeneerPage → Option (Nat × List SharedVeneerPage)
  | [] => none
  | page :: pages =>
    match page.issue kind cookie target pageSize with
    | some (entry, page) => some (entry, page :: pages)
    | none => (issueFirst kind cookie target pageSize pages).map fun (entry, pages) =>
        (entry, page :: pages)

/-! ## Allocation -/

/-- An entry that was returned, and what it was asked for. -/
structure Veneer where
  entry : Nat
  kind : SharedVeneerKind
  cookie : Nat
  target : Address
  deriving DecidableEq, Repr

/-- The pools and the pages of the process, its code, and the entries that were returned. -/
structure VeneerState where
  pools : List NearStubPages := []
  pages : List SharedVeneerPage := []
  code : Memory
  veneers : List Veneer := []

/-- A call of `AllocateSharedVeneer`, and what the system does in it. -/
structure VeneerCall where
  kind : SharedVeneerKind
  cookie : Nat
  target : Address
  hasOutSize : Bool
  rawPageSize : Int
  system : PageSystem
  hasMemory : Bool
  slotsAddress : Address
  makesExecutable : Bool

namespace VeneerState
variable (dispatcher : SharedVeneerKind → Address)

/-- The part of `AllocateSharedVeneer` that takes a new page. -/
def addPage (state : VeneerState) (call : VeneerCall) (pageSize : Nat) :
    Option Nat × VeneerState :=
  match allocateNearStubPage call.system call.target.toNat kArm64BranchReach pageSize
      state.pools with
  | (none, pools) => (none, { state with pools })
  | (some base, pools) =>
    let page : SharedVeneerPage :=
      ⟨base, pageSize, pageSize / kSlotSize, List.replicate (pageSize / kSlotSize) {},
        call.slotsAddress⟩
    let code := storeFields state.code page.base (page.fields dispatcher)
    -- Otherwise the page stays with the process and is never used.
    if call.makesExecutable = false then (none, { state with pools, code })
    else
      match page.issue call.kind call.cookie call.target.toNat pageSize with
      | none => (none, { state with pools, code, pages := state.pages ++ [page] })
      | some (entry, page) =>
        (some entry, { state with pools, code, pages := state.pages ++ [page] })

/-- `AllocateSharedVeneer`. -/
def allocateSharedVeneer (state : VeneerState) (call : VeneerCall) : Option Nat × VeneerState :=
  if call.cookie = 0 ∨ call.target = 0#64 ∨ call.hasOutSize = false then (none, state)
  else if call.rawPageSize ≤ 0 then (none, state)
  else
    let pageSize := call.rawPageSize.toNat
    if pageSize < 3 * kSlotSize ∨ pageSize % kSlotSize ≠ 0 then (none, state)
    else
      match issueFirst call.kind call.cookie call.target.toNat pageSize state.pages with
      | some (entry, pages) => (some entry, { state with pages })
      | none =>
        if call.hasMemory = false then (none, state)
        else state.addPage dispatcher call pageSize

/-- What a call returns, kept in the history. -/
def record (call : VeneerCall) : Option Nat × VeneerState → VeneerState
  | (none, next) => next
  | (some entry, next) =>
    { next with veneers := ⟨entry, call.kind, call.cookie, call.target⟩ :: next.veneers }

def step (state : VeneerState) (call : VeneerCall) : VeneerState :=
  record call (state.allocateSharedVeneer dispatcher call)

/-! ## What a veneer is -/

/-- A veneer in its slot. -/
structure InSlot (state : VeneerState) (veneer : Veneer) (page : SharedVeneerPage) (index : Nat) :
    Prop where
  inPage : index < page.slotCount
  entry : veneer.entry = page.entry index
  cookie : page.slots[index]? = some ⟨veneer.cookie, true⟩
  loadsCell : load state.code (BitVec.ofNat 64 (veneer.entry + 16)) 8 = (page.cell index).toNat

/-- The veneer is in a slot of some page, its cell holds its cookie, it dispatches to the code of its
kind, every byte of it is near its target, and a branch from there to the veneer can be encoded and
is decoded as such. -/
structure VeneerKept (state : VeneerState) (veneer : Veneer) : Prop where
  slot : ∃ page ∈ state.pages, ∃ index, state.InSlot veneer page index
  dispatches : load state.code (BitVec.ofNat 64 (veneer.entry + 24)) 8 =
    (dispatcher veneer.kind).toNat
  near : ∀ offset < kSlotSize,
    distance (veneer.entry + offset) veneer.target.toNat < kArm64BranchReach
  branch : ∃ instruction,
    encodeDirectBranch veneer.target (BitVec.ofNat 64 veneer.entry) = some instruction ∧
      decodeDirectBranch instruction =
        some ((veneer.entry : Int) - veneer.target.toNat, false)

/-- All veneers are kept, and their slots have no byte in common. -/
structure Kept (state : VeneerState) : Prop where
  kept : ∀ veneer ∈ state.veneers, state.VeneerKept dispatcher veneer
  distinct : state.veneers.Pairwise fun first second =>
    Apart ⟨first.entry, kSlotSize⟩ ⟨second.entry, kSlotSize⟩

/-- Targets are aligned, pages have the size of a power of two, and new mappings start at a page and
are apart from the pages that are mapped. -/
structure Enabled (state : VeneerState) (call : VeneerCall) : Prop where
  aligned : call.target.toNat % 4 = 0
  pages : call.rawPageSize ≤ 0 ∨
    (∃ order, call.rawPageSize.toNat = 2 ^ order) ∧ call.rawPageSize.toNat < 2 ^ 64
  fresh : FreshMappings call.system call.rawPageSize.toNat
    (allFree (scanPools call.system call.target.toNat kArm64BranchReach call.rawPageSize.toNat
      state.pools).2 ++ state.pages.map extent)

end VeneerState

/-! ## Writing a page -/

section Fields
variable {cell target : Address} {base : Nat}

theorem veneerFields_fit {field : Field} (h : field ∈ veneerFields cell target) :
    0 < field.width ∧ field.offset + field.width ≤ kSlotSize ∧
      field.value < 256 ^ field.width := by
  have hcell := cell.isLt
  have htarget := target.isLt
  simp only [veneerFields, mem_cons, not_mem_nil, or_false] at h
  unfold kSlotSize
  obtain rfl | rfl | rfl | rfl | rfl | rfl := h <;> dsimp only <;> omega

theorem veneerFields_apart :
    (veneerFields cell target).Pairwise fun first second =>
      Apart (first.extent base) (second.extent base) := by
  simp [veneerFields, Apart, Extent.stop, Field.extent, Nat.add_assoc]

end Fields

namespace SharedVeneerPage
variable {page other : SharedVeneerPage} {dispatcher : SharedVeneerKind → Address} {code : Memory}

/-- The slots of a page are its parts. -/
theorem mem_fields {field : Field} :
    field ∈ page.fields dispatcher ↔ ∃ index < page.slotCount,
      ∃ inner ∈ veneerFields (page.cell index) (dispatcher (slotKind index page.slotCount)),
        field = { inner with offset := index * kSlotSize + inner.offset } := by
  simp only [fields, mem_flatMap, mem_range, mem_map, eq_comm]

theorem field_inside {index : Nat} {cell target : Address} {inner : Field}
    (h : inner ∈ veneerFields cell target) :
    Inside (Field.extent page.base { inner with offset := index * kSlotSize + inner.offset })
      (part page.base kSlotSize index) := by
  have hfit := veneerFields_fit h
  unfold Inside Extent.stop Field.extent part
  dsimp only
  omega

/-- The fields of a page are apart from each other. -/
theorem fields_apart :
    (page.fields dispatcher).Pairwise fun first second =>
      Apart (first.extent page.base) (second.extent page.base) := by
  rw [fields, pairwise_flatMap]
  constructor
  · intro index _
    rw [pairwise_map]
    refine (@veneerFields_apart _ _ (page.base + index * kSlotSize)).imp ?_
    intro first second h
    unfold Apart Extent.stop Field.extent at h ⊢
    dsimp only at h ⊢
    omega
  · refine nodup_range.imp ?_
    intro index index' hne first hfirst second hsecond
    obtain ⟨inner, hinner, rfl⟩ := mem_map.mp hfirst
    obtain ⟨inner', hinner', rfl⟩ := mem_map.mp hsecond
    exact (field_inside hinner).apart
      ((field_inside hinner').apart (part_apart hne).symm).symm

/-- The slots fill the page, its addresses do not wrap around, and it is written. -/
structure Sound (dispatcher : SharedVeneerKind → Address) (code : Memory)
    (page : SharedVeneerPage) : Prop where
  length : page.slots.length = page.slotCount
  size : page.pageSize = kSlotSize * page.slotCount
  base : page.base % 4 = 0
  space : page.base + page.pageSize ≤ 2 ^ 64
  written : ∀ field ∈ page.fields dispatcher,
    load code (BitVec.ofNat 64 (page.base + field.offset)) field.width = field.value

/-- The fields lie in the page. -/
theorem fields_inside (hsize : page.pageSize = kSlotSize * page.slotCount) {field : Field}
    (h : field ∈ page.fields dispatcher) :
    0 < field.width ∧ Inside (field.extent page.base) page.extent := by
  obtain ⟨index, hindex, inner, hinner, rfl⟩ := mem_fields.mp h
  refine ⟨(veneerFields_fit hinner).1, ?_⟩
  have hpart := @part_inside page.base kSlotSize _ _ hindex
  have hfield := @field_inside page index _ _ _ hinner
  rw [extent, hsize]
  exact ⟨hpart.1.trans hfield.1, hfield.2.trans hpart.2⟩

theorem fields_addressable (hsize : page.pageSize = kSlotSize * page.slotCount)
    (hspace : page.base + page.pageSize ≤ 2 ^ 64) {field : Field}
    (h : field ∈ page.fields dispatcher) : Addressable (field.extent page.base) := by
  obtain ⟨hwidth, hinside⟩ := fields_inside hsize h
  exact ⟨hwidth, hinside.2.trans hspace⟩

/-- A page is written by the loop over its slots. -/
theorem written_storeFields (hsize : page.pageSize = kSlotSize * page.slotCount)
    (hspace : page.base + page.pageSize ≤ 2 ^ 64) {field : Field}
    (h : field ∈ page.fields dispatcher) :
    load (storeFields code page.base (page.fields dispatcher))
      (BitVec.ofNat 64 (page.base + field.offset)) field.width = field.value := by
  rw [load_storeFields (fun _ => fields_addressable hsize hspace) fields_apart h]
  obtain ⟨index, -, inner, hinner, rfl⟩ := mem_fields.mp h
  exact Nat.mod_eq_of_lt (veneerFields_fit hinner).2.2

/-- Writing a page does not change one that is apart from it. -/
theorem Sound.storeFields (h : page.Sound dispatcher code)
    (hsize : other.pageSize = kSlotSize * other.slotCount)
    (hspace : other.base + other.pageSize ≤ 2 ^ 64) (hapart : Apart other.extent page.extent) :
    page.Sound dispatcher
      (ByteMemory.storeFields code other.base (other.fields dispatcher)) := by
  refine ⟨h.length, h.size, h.base, h.space, fun field hfield => ?_⟩
  have hload := fields_addressable h.size h.space hfield
  refine (load_storeFields_apart (fun _ => fields_addressable hsize hspace) hload ?_).trans
    (h.written field hfield)
  intro store hstore
  exact (fields_inside hsize hstore).2.apart
    ((fields_inside h.size hfield).2.apart hapart.symm).symm

end SharedVeneerPage

/-! ## Issuing a slot -/

section Kinds
variable {kind : SharedVeneerKind} {index count : Nat}

/-- The two divisions of a page agree. -/
theorem slotKind_of_range (hbegin : (sharedVeneerRange kind count).1 ≤ index)
    (hend : index < (sharedVeneerRange kind count).2) : slotKind index count = kind := by
  unfold slotKind
  cases kind with
  | callback => exact if_pos hend
  | returnEntry => exact (if_neg (Nat.not_lt.mpr hbegin)).trans (if_pos hend)
  | generatedGate =>
    unfold sharedVeneerRange at hbegin
    dsimp only at hbegin
    rw [if_neg (by omega), if_neg (by omega)]

end Kinds

namespace SharedVeneerPage
variable {page : SharedVeneerPage} {kind : SharedVeneerKind} {cookie target pageSize : Nat}

/-- The page with the slot issued. -/
def issued (page : SharedVeneerPage) (index cookie : Nat) : SharedVeneerPage :=
  { page with slots := page.slots.set index ⟨cookie, true⟩ }

/-- A slot that can be issued for the kind and the target. -/
structure Available (page : SharedVeneerPage) (kind : SharedVeneerKind) (target index : Nat) :
    Prop where
  free : ∃ slot, page.slots[index]? = some slot ∧ slot.issued = false
  kind : slotKind index page.slotCount = kind
  near : nearSpanFits (page.entry index) kSlotSize target kArm64BranchReach = true

theorem issue_eq_some {entry : Nat} {next : SharedVeneerPage}
    (h : page.issue kind cookie target pageSize = some (entry, next)) :
    ∃ index, page.Available kind target index ∧ entry = page.entry index ∧
      next = page.issued index cookie := by
  unfold issue at h
  split at h
  · cases h
  obtain ⟨index, hfirst, heq⟩ := Option.map_eq_some_iff.mp h
  obtain ⟨rfl, rfl⟩ := Prod.mk.inj heq
  have hmem := mem_of_find?_eq_some hfirst
  have hcan := List.find?_some hfirst
  rw [mem_range'_1] at hmem
  unfold canIssue at hcan
  split at hcan
  next slot hslot =>
    obtain ⟨hfree, hnear⟩ := Bool.and_eq_true_iff.mp hcan
    refine ⟨index, ⟨⟨slot, hslot, ?_⟩, slotKind_of_range hmem.1 (by omega), hnear⟩, rfl, rfl⟩
    rwa [Bool.not_eq_true'] at hfree
  next => cases hcan

/-- The veneer is in the slot, and its cookie in the cell. -/
structure Holds (page : SharedVeneerPage) (veneer : Veneer) (index : Nat) : Prop where
  entry : veneer.entry = page.entry index
  cookie : page.slots[index]? = some ⟨veneer.cookie, true⟩
  kind : slotKind index page.slotCount = veneer.kind

variable {veneer : Veneer} {index : Nat}

/-- A slot that holds a veneer is not issued again. -/
theorem Holds.issued (h : page.Holds veneer index) {target index' : Nat}
    (havailable : page.Available kind target index') :
    index ≠ index' ∧ (page.issued index' cookie).Holds veneer index := by
  have hne : index ≠ index' := by
    rintro rfl
    obtain ⟨slot, hslot, hfree⟩ := havailable.free
    obtain rfl := Option.some.inj (hslot.symm.trans h.cookie)
    cases hfree
  refine ⟨hne, h.entry, ?_, h.kind⟩
  rw [SharedVeneerPage.issued, List.getElem?_set_ne hne.symm]
  exact h.cookie

theorem Available.holds (havailable : page.Available kind target index) (place : Address) :
    (page.issued index cookie).Holds ⟨page.entry index, kind, cookie, place⟩ index := by
  obtain ⟨slot, hslot, -⟩ := havailable.free
  refine ⟨rfl, ?_, havailable.kind⟩
  obtain ⟨hlt, -⟩ := List.getElem?_eq_some_iff.mp hslot
  exact List.getElem?_set_self hlt

theorem Sound.issued {dispatcher : SharedVeneerKind → Address} {code : Memory}
    (h : page.Sound dispatcher code) (index cookie : Nat) :
    (page.issued index cookie).Sound dispatcher code := by
  refine ⟨?_, h.size, h.base, h.space, h.written⟩
  rw [SharedVeneerPage.issued, length_set]
  exact h.length

/-- The slot of a veneer lies in its page. -/
theorem Sound.slot_inside {dispatcher : SharedVeneerKind → Address} {code : Memory}
    (h : page.Sound dispatcher code) {slot : SharedVeneerSlot}
    (hslot : page.slots[index]? = some slot) :
    index < page.slotCount ∧ Inside ⟨page.entry index, kSlotSize⟩ page.extent := by
  obtain ⟨hlt, -⟩ := List.getElem?_eq_some_iff.mp hslot
  rw [h.length] at hlt
  refine ⟨hlt, ?_⟩
  rw [extent, h.size]
  exact part_inside hlt

end SharedVeneerPage

/-- The first page that issues an entry. -/
theorem issueFirst_eq_some {kind : SharedVeneerKind} {cookie target pageSize entry : Nat}
    {pages next : List SharedVeneerPage}
    (h : issueFirst kind cookie target pageSize pages = some (entry, next)) :
    ∃ before page after index, pages = before ++ page :: after ∧
      page.Available kind target index ∧ entry = page.entry index ∧
        next = before ++ page.issued index cookie :: after := by
  induction pages generalizing next with
  | nil => cases h
  | cons page pages ih =>
    rw [issueFirst] at h
    split at h
    next entry' page' hissue =>
      obtain ⟨rfl, rfl⟩ := Prod.mk.inj (Option.some.inj h)
      obtain ⟨index, havailable, rfl, rfl⟩ := issue_eq_some hissue
      exact ⟨[], page, pages, index, rfl, havailable, rfl, rfl⟩
    next =>
      obtain ⟨⟨entry', pages'⟩, hrest, heq⟩ := Option.map_eq_some_iff.mp h
      obtain ⟨rfl, rfl⟩ := Prod.mk.inj heq
      obtain ⟨before, chosen, after, index, rfl, havailable, rfl, rfl⟩ := ih hrest
      exact ⟨page :: before, chosen, after, index, rfl, havailable, rfl, rfl⟩

/-! ## The invariant -/

namespace VeneerState
variable {dispatcher : SharedVeneerKind → Address} {state : VeneerState}

/-- Free pages and pages of slots are apart, every page of slots is written, and every veneer has a
slot of its own near its target. -/
structure Sound (dispatcher : SharedVeneerKind → Address) (state : VeneerState) : Prop where
  pools : ∀ pool ∈ state.pools, pool.Wellformed
  apart : (allFree state.pools ++ state.pages.map extent).Pairwise Apart
  pages : ∀ page ∈ state.pages, page.Sound dispatcher state.code
  held : ∀ veneer ∈ state.veneers, ∃ page ∈ state.pages, ∃ index, page.Holds veneer index
  near : ∀ veneer ∈ state.veneers, veneer.target.toNat % 4 = 0 ∧
    nearSpanFits veneer.entry kSlotSize veneer.target.toNat kArm64BranchReach = true
  distinct : state.veneers.Pairwise fun first second =>
    Apart ⟨first.entry, kSlotSize⟩ ⟨second.entry, kSlotSize⟩

theorem Sound.init (dispatcher : SharedVeneerKind → Address) (code : Memory) :
    Sound dispatcher { code } :=
  ⟨nofun, List.Pairwise.nil, nofun, nofun, nofun, List.Pairwise.nil⟩

/-- The state after a slot of one of its pages is issued. -/
def withVeneer (state : VeneerState) (pages : List SharedVeneerPage) (veneer : Veneer) :
    VeneerState :=
  { state with pages, veneers := veneer :: state.veneers }

section
variable (h : Sound dispatcher state)
include h

/-- A slot is issued. -/
theorem Sound.issue {before after : List SharedVeneerPage}
    {page : SharedVeneerPage} {kind : SharedVeneerKind} {cookie index : Nat} {target : Address}
    (hpages : state.pages = before ++ page :: after) (haligned : target.toNat % 4 = 0)
    (havailable : page.Available kind target.toNat index) :
    Sound dispatcher (state.withVeneer (before ++ page.issued index cookie :: after)
      ⟨page.entry index, kind, cookie, target⟩) := by
  have hpage : page ∈ state.pages := by
    rw [hpages]
    exact mem_append_right _ mem_cons_self
  obtain ⟨slot, hslot, -⟩ := havailable.free
  have hinside := ((h.pages page hpage).slot_inside hslot).2
  -- The other pages are the same, and apart from this one.
  have hother : ∀ other ∈ state.pages,
      other = page ∨ other ∈ before ++ page.issued index cookie :: after ∧
        Apart page.extent other.extent := by
    intro other hmem
    have hapart := (pairwise_append.mp h.apart).2.1
    rw [hpages, map_append, map_cons, pairwise_append, pairwise_cons]
      at hapart
    obtain ⟨-, ⟨hafter, -⟩, hbefore⟩ := hapart
    rw [hpages, mem_append, mem_cons] at hmem
    obtain hmem | rfl | hmem := hmem
    · refine Or.inr ⟨mem_append_left _ hmem, ?_⟩
      exact (hbefore _ (mem_map_of_mem hmem) _ mem_cons_self).symm
    · exact Or.inl rfl
    · exact Or.inr ⟨mem_append_right _ (mem_cons_of_mem _ hmem),
        hafter _ (mem_map_of_mem hmem)⟩
  have hnew : page.issued index cookie ∈ before ++ page.issued index cookie :: after :=
    mem_append_right _ mem_cons_self
  constructor
  case pools => exact h.pools
  case apart =>
    have hsame : (before ++ page.issued index cookie :: after).map extent =
        state.pages.map extent := by
      rw [hpages, map_append, map_append]
      rfl
    show (allFree state.pools ++ _).Pairwise Apart
    exact hsame ▸ h.apart
  case pages =>
    intro other hmem
    obtain hmem | hmem := mem_append.mp hmem
    · exact h.pages other (hpages ▸ mem_append_left _ hmem)
    · obtain rfl | hmem := mem_cons.mp hmem
      · exact (h.pages page hpage).issued index cookie
      · exact h.pages other (hpages ▸ mem_append_right _ (mem_cons_of_mem _ hmem))
  case held =>
    refine forall_mem_cons.mpr ⟨⟨_, hnew, index, havailable.holds target⟩, ?_⟩
    intro veneer hveneer
    obtain ⟨other, hmem, place, hholds⟩ := h.held veneer hveneer
    obtain rfl | ⟨hkept, -⟩ := hother other hmem
    · exact ⟨_, hnew, place, (hholds.issued havailable).2⟩
    · exact ⟨other, hkept, place, hholds⟩
  case near => exact forall_mem_cons.mpr ⟨⟨haligned, havailable.near⟩, h.near⟩
  case distinct =>
    refine pairwise_cons.mpr ⟨fun veneer hveneer => ?_, h.distinct⟩
    obtain ⟨other, hmem, place, hholds⟩ := h.held veneer hveneer
    rw [hholds.entry]
    obtain rfl | ⟨-, hapart⟩ := hother other hmem
    · exact part_apart (@SharedVeneerPage.Holds.issued _ _ 0 _ _ hholds _ _ havailable).1.symm
    · have hplace := ((h.pages other hmem).slot_inside hholds.cookie).2
      exact hinside.apart (hplace.apart hapart.symm).symm

/-- The pools change, and a page that is not one of the pages of slots is written. -/
theorem Sound.write {page : SharedVeneerPage}
    {pools : List NearStubPages} (hpools : ∀ pool ∈ pools, pool.Wellformed)
    (hapart : (page.extent :: (allFree pools ++ state.pages.map extent)).Pairwise
      Apart) (hsize : page.pageSize = kSlotSize * page.slotCount)
    (hspace : page.base + page.pageSize ≤ 2 ^ 64) : Sound dispatcher { state with
      pools, code := storeFields state.code page.base (page.fields dispatcher) } := by
  obtain ⟨hnew, hrest⟩ := pairwise_cons.mp hapart
  refine ⟨hpools, hrest, fun other hmem => ?_, h.held, h.near, h.distinct⟩
  refine (h.pages other hmem).storeFields hsize hspace (hnew _ ?_)
  exact mem_append_right _ (mem_map_of_mem hmem)

/-- A page that has been written is added to the pages of slots. -/
theorem Sound.add {page : SharedVeneerPage} (hpage : page.Sound dispatcher state.code)
    (hapart : (page.extent ::
      (allFree state.pools ++ state.pages.map extent)).Pairwise Apart) :
    Sound dispatcher { state with pages := state.pages ++ [page] } := by
  refine ⟨h.pools, ?_, ?_, ?_, h.near, h.distinct⟩
  · refine pairwise_of_subperm ?_ hapart
    rw [map_append, map_cons, map_nil, ← append_assoc]
    exact (perm_append_singleton _ _).subperm
  · intro other hmem
    obtain hmem | hmem := mem_append.mp hmem
    · exact h.pages other hmem
    · rw [mem_singleton.mp hmem]
      exact hpage
  · intro veneer hveneer
    obtain ⟨other, hmem, index, hholds⟩ := h.held veneer hveneer
    exact ⟨other, mem_append_left _ hmem, index, hholds⟩

/-- The end of a call that has taken a new page. -/
theorem Sound.addPage {call : VeneerCall} {pageSize : Nat}
    (haligned : call.target.toNat % 4 = 0) (hpage : ∃ order, pageSize = 2 ^ order)
    (hslots : pageSize % kSlotSize = 0) (hfresh : FreshMappings call.system pageSize
      (allFree (scanPools call.system call.target.toNat kArm64BranchReach pageSize
        state.pools).2 ++ state.pages.map extent)) (hbound : pageSize < 2 ^ 64) :
    Sound dispatcher (record call (state.addPage dispatcher call pageSize)) := by
  unfold kSlotSize at hslots
  have hallocated := allocateNearStubPage_spec hpage (by omega) h.pools h.apart hfresh
  unfold VeneerState.addPage
  split
  next pools hnone =>
    rw [hnone] at hallocated
    exact ⟨hallocated.wellformed, hallocated.apart, h.pages, h.held, h.near, h.distinct⟩
  next base pools hsome =>
    rw [hsome] at hallocated
    obtain ⟨hfits, hbase⟩ := hallocated.fits base rfl
    obtain ⟨-, hspace, -⟩ := (nearSpanFits_iff hbound).mp hfits
    dsimp only
    generalize hpageNew : SharedVeneerPage.mk base pageSize (pageSize / kSlotSize)
      (List.replicate (pageSize / kSlotSize) {}) call.slotsAddress = page
    have hsize : page.pageSize = kSlotSize * page.slotCount := by
      subst hpageNew
      show pageSize = 32 * (pageSize / 32)
      omega
    have hlength : page.slots.length = page.slotCount := by
      subst hpageNew
      exact length_replicate
    have hplace : page.base = base ∧ page.pageSize = pageSize := by
      subst hpageNew
      exact ⟨rfl, rfl⟩
    clear hpageNew
    obtain ⟨rfl, rfl⟩ := hplace
    have hwritten := h.write hallocated.wellformed hallocated.apart hsize hspace
    split
    · exact hwritten
    have hadded := hwritten.add ⟨hlength, hsize, hbase, hspace,
      fun field => written_storeFields hsize hspace⟩ hallocated.apart
    split
    · exact hadded
    next entry next hissue =>
      obtain ⟨index, havailable, rfl, rfl⟩ := issue_eq_some hissue
      exact hadded.issue rfl haligned havailable

/-- A call keeps the invariant. -/
theorem Sound.step {call : VeneerCall}
    (henabled : state.Enabled call) : Sound dispatcher (state.step dispatcher call) := by
  unfold VeneerState.step allocateSharedVeneer
  split
  · exact h
  split
  · exact h
  next hpositive =>
    dsimp only
    split
    · exact h
    next hsize =>
      split
      next entry pages hissue =>
        obtain ⟨before, page, after, index, hpages, havailable, rfl, rfl⟩ :=
          issueFirst_eq_some hissue
        exact h.issue hpages henabled.aligned havailable
      next =>
        split
        · exact h
        obtain ⟨-, hslots⟩ := not_or.mp hsize
        have hpage := henabled.pages.resolve_left hpositive
        exact h.addPage henabled.aligned hpage.1 (not_not.mp hslots) henabled.fresh hpage.2

/-- What the invariant says of one veneer. -/
theorem Sound.keeps {veneer : Veneer}
    (hveneer : veneer ∈ state.veneers) : state.VeneerKept dispatcher veneer := by
  obtain ⟨page, hmem, index, hholds⟩ := h.held veneer hveneer
  obtain ⟨haligned, hnear⟩ := h.near veneer hveneer
  have hsound := h.pages page hmem
  obtain ⟨hindex, -⟩ := hsound.slot_inside hholds.cookie
  have hentry : veneer.entry = page.base + index * 32 := hholds.entry
  obtain ⟨-, hspace, hfirst, -⟩ := (nearSpanFits_iff (by decide)).mp hnear
  have hload : ∀ inner ∈ veneerFields (page.cell index) (dispatcher veneer.kind),
      load state.code (BitVec.ofNat 64 (veneer.entry + inner.offset)) inner.width =
        inner.value := by
    intro inner hinner
    rw [← hholds.kind] at hinner
    have hwritten := hsound.written _
      (mem_fields.mpr ⟨index, hindex, inner, hinner, rfl⟩)
    dsimp only at hwritten
    rw [← Nat.add_assoc] at hwritten
    rw [hholds.entry]
    exact hwritten
  constructor
  case slot =>
    refine ⟨page, hmem, index, hindex, hholds.entry, hholds.cookie, ?_⟩
    exact hload ⟨16, 8, _⟩ (by simp [veneerFields])
  case dispatches => exact hload ⟨24, 8, _⟩ (by simp [veneerFields])
  case near =>
    intro offset hoffset
    have hinside : Inside ⟨veneer.entry + offset, 1⟩ ⟨veneer.entry, kSlotSize⟩ := by
      unfold Inside Extent.stop
      dsimp only
      omega
    have hbyte := nearSpanFits_inside (by decide) hnear Nat.one_ne_zero hinside
    exact ((nearSpanFits_iff (by decide)).mp hbyte).2.2.1
  case branch =>
    unfold kSlotSize at hspace
    have hplace : (BitVec.ofNat 64 veneer.entry).toNat = veneer.entry := by
      rw [BitVec.toNat_ofNat, Nat.mod_eq_of_lt (by omega)]
    have hbase := hsound.base
    unfold distance kArm64BranchReach at hfirst
    have hbranch := @decode_encodeDirectBranch veneer.target (BitVec.ofNat 64 veneer.entry)
      haligned (by rw [hplace]; omega)
      (by rw [hplace, kArm64BranchReach]; split at hfirst <;> omega)
      (by rw [hplace, kArm64BranchReach]; split at hfirst <;> omega)
    rw [hplace] at hbranch
    exact hbranch

theorem Sound.kept : state.Kept dispatcher :=
  ⟨fun _ hveneer => h.keeps hveneer, h.distinct⟩

end

/-! ## Every sequence of calls -/

/-- After every call of a sequence all the veneers that were returned are kept: each has a slot of
its own, near its target, that holds its cookie and dispatches to the code of its kind. -/
theorem veneers_kept (dispatcher : SharedVeneerKind → Address) (code : Memory)
    (calls : List VeneerCall) (henabled : AlongSteps (step dispatcher) Enabled { code } calls) :
    Along (step dispatcher) (Kept dispatcher) { code } calls := by
  have hsound := along_of_invariant (fun _ _ h henabled => h.step henabled) henabled
    (Sound.init dispatcher code)
  exact fun before hbefore => (hsound before hbefore).kept

/-- A callback whose page is mapped 8 MiB after its target, and a return that finds the page. -/
def twoVeneers : List VeneerCall :=
  [{ kind := .callback, cookie := 7, target := 0x70000000#64, hasOutSize := true,
     rawPageSize := 4096, hasMemory := true, slotsAddress := 0x5000#64, makesExecutable := true,
     system := ⟨true, fun _ _ _ => some 0x70800000, fun _ => true⟩ },
    { kind := .returnEntry, cookie := 9, target := 0x70000100#64, hasOutSize := true,
      rawPageSize := 4096, hasMemory := false, slotsAddress := 0#64, makesExecutable := false,
      system := ⟨false, fun _ _ _ => none, fun _ => false⟩ }]

theorem veneers_kept_two :
    Along (step fun _ => 0x6000#64) (Kept fun _ => 0x6000#64) { code := fun _ => 0#8 } twoVeneers ∧
      ((twoVeneers.foldl (step fun _ => 0x6000#64) { code := fun _ => 0#8 }).veneers.map
        Veneer.entry) = [0x70800540, 0x70800000] := by
  refine ⟨veneers_kept _ _ _ ?_, by decide +kernel⟩
  refine alongSteps_cons.mpr ⟨⟨by decide, Or.inr ⟨⟨12, rfl⟩, by decide⟩, ?_⟩,
    alongSteps_cons.mpr ⟨⟨by decide, Or.inr ⟨⟨12, rfl⟩, by decide⟩, ?_⟩, alongSteps_nil⟩⟩
  · intro pageCount attempt place start hstart
    obtain rfl := Option.some.inj hstart
    exact ⟨by decide, fun extent hextent => by cases hextent⟩
  · intro pageCount attempt place start hstart
    cases hstart

end VeneerState

end DartPlant
