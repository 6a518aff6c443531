import DartPlant.Lib.Extents
import Mathlib

/-! # Pages near a branch

Pages for generated code come from pools that were mapped within reach of some branch.  A pool has a
bit for each of its pages, and a page whose bit is set is never given out again, also when it could
not be made writable.
-/

namespace DartPlant
open Extents List

/-- `UINTPTR_MAX`. -/
def kUintptrMax : Nat := 2 ^ 64 - 1

/-- `Distance`. -/
def distance (left right : Nat) : Nat := if left > right then left - right else right - left

/-- `NearSpanFits`. -/
def nearSpanFits (start span target reach : Nat) : Bool :=
  if span = 0 ∨ start > kUintptrMax - (span - 1) then false
  else distance start target < reach && distance (start + span - 1) target < reach

structure NearStubPages where
  base : Nat
  pageSize : Nat
  pageCount : Nat
  usedPages : BitVec 32
  deriving DecidableEq, Repr

namespace NearStubPages

/-- The test of a page's bit. -/
def isUsed (pool : NearStubPages) (index : Nat) : Bool :=
  pool.usedPages &&& (1#32 <<< index) != 0#32

/-- The pool with a page's bit set. -/
def use (pool : NearStubPages) (index : Nat) : NearStubPages :=
  { pool with usedPages := pool.usedPages ||| (1#32 <<< index) }

def page (pool : NearStubPages) (index : Nat) : Extent := part pool.base pool.pageSize index

/-- The pages that can still be given out. -/
def freePages (pool : NearStubPages) : List Extent :=
  ((List.range pool.pageCount).filter fun index => !pool.isUsed index).map pool.page

end NearStubPages

/-! ## Taking a page -/

/-- What the allocator asks of the system: whether there is memory for one more pool, what each
`mmap` returns when a pool of so many pages is tried at a place, and whether a page can be made
writable. -/
structure PageSystem where
  hasRoom : Bool
  mmap : (pageCount attempt place : Nat) → Option Nat
  makesWritable : (page : Nat) → Bool

/-- The loop over the pages of one pool, and the pool after it.  A page that cannot be made writable
is unmapped. -/
def scanPool (system : PageSystem) (target reach : Nat) (pool : NearStubPages) :
    List Nat → Option Nat × NearStubPages
  | [] => (none, pool)
  | index :: indices =>
    if pool.isUsed index then scanPool system target reach pool indices
    else
      let page := pool.base + index * pool.pageSize
      if nearSpanFits page pool.pageSize target reach = false then
        scanPool system target reach pool indices
      else if system.makesWritable page then (some page, pool.use index)
      else scanPool system target reach (pool.use index) indices

/-- The loop over the pools. -/
def scanPools (system : PageSystem) (target reach pageSize : Nat) :
    List NearStubPages → Option Nat × List NearStubPages
  | [] => (none, [])
  | pool :: pools =>
    if pool.pageSize ≠ pageSize then
      ((scanPools system target reach pageSize pools).1,
        pool :: (scanPools system target reach pageSize pools).2)
    else
      match scanPool system target reach pool (List.range pool.pageCount) with
      | (some page, pool) => (some page, pool :: pools)
      | (none, pool) =>
        ((scanPools system target reach pageSize pools).1,
          pool :: (scanPools system target reach pageSize pools).2)

/-! ## Reserving pages -/

/-- `kHintStep`. -/
def kHintStep : Nat := 8 * 2 ^ 20

/-- The places that are asked for as a hint, on both sides of the target and further and further
away. -/
def hintPlaces (targetPage reach : Nat) : List Nat :=
  (List.range ((reach - 1) / kHintStep)).flatMap fun turn =>
    let delta := kHintStep * (turn + 1)
    [if targetPage ≤ kUintptrMax - delta then targetPage + delta else 0,
      if targetPage ≥ delta then targetPage - delta else 0].filter fun hint => hint ≠ 0

/-- The places that are asked for exactly, if they fit. -/
def candidatePlaces (targetPage target reach pageSize span : Nat) : List Nat :=
  (List.range ((reach - pageSize + span - 1) / span)).flatMap fun turn =>
    let delta := pageSize + span * turn
    [if targetPage ≤ kUintptrMax - delta then targetPage + delta else 0,
      if targetPage ≥ delta + span - pageSize then targetPage - delta - (span - pageSize)
      else 0].filter fun candidate => candidate ≠ 0 && nearSpanFits candidate span target reach

/-- `ReserveNearStubPages`: the first mapping that fits.  The others are unmapped at once. -/
def reserveNearStubPages (system : PageSystem) (targetPage target reach pageSize pageCount : Nat) :
    Option Nat :=
  let span := pageSize * pageCount % 2 ^ 64
  let places := hintPlaces targetPage reach ++ candidatePlaces targetPage target reach pageSize span
  places.zipIdx.findSome? fun (place, attempt) =>
    match system.mmap pageCount attempt place with
    | some mapped => if nearSpanFits mapped span target reach then some mapped else none
    | none => none

/-- The sizes of the pools that are tried. -/
def poolSizes : List Nat := [32, 8, 1]

/-- The loop over the sizes: the first pool that can be reserved. -/
def reservePool (system : PageSystem) (target reach pageSize : Nat) : Option NearStubPages :=
  let targetPage := (BitVec.ofNat 64 target &&& ~~~ (BitVec.ofNat 64 pageSize - 1#64)).toNat
  poolSizes.findSome? fun pageCount =>
    (reserveNearStubPages system targetPage target reach pageSize pageCount).map fun mapped =>
      ⟨mapped, pageSize, pageCount, 1#32⟩

/-- `AllocateNearStubPage`. -/
def allocateNearStubPage (system : PageSystem) (target reach pageSize : Nat)
    (pools : List NearStubPages) : Option Nat × List NearStubPages :=
  match scanPools system target reach pageSize pools with
  | (some page, pools) => (some page, pools)
  | (none, pools) =>
    if system.hasRoom = false then (none, pools)
    else
      match reservePool system target reach pageSize with
      | none => (none, pools)
      | some pool =>
        (if system.makesWritable pool.base then some pool.base else none, pools ++ [pool])

/-! ## What a span that fits is -/

section Spans
variable {start span start' span' target reach : Nat}

theorem nearSpanFits_iff (hsize : span < 2 ^ 64) :
    nearSpanFits start span target reach = true ↔ span ≠ 0 ∧ start + span ≤ 2 ^ 64 ∧
      distance start target < reach ∧ distance (start + span - 1) target < reach := by
  have hspace : start > kUintptrMax - (span - 1) ↔ span = 0 ∧ start > kUintptrMax ∨
      span ≠ 0 ∧ ¬ start + span ≤ 2 ^ 64 := by
    unfold kUintptrMax
    omega
  unfold nearSpanFits
  split
  next hrefused =>
    refine iff_of_false nofun ?_
    rintro ⟨hspan, hfits, -⟩
    rw [hspace] at hrefused
    omega
  next hchecked =>
    obtain ⟨hspan, hfits⟩ := not_or.mp hchecked
    rw [hspace] at hfits
    rw [Bool.and_eq_true, decide_eq_true_iff, decide_eq_true_iff]
    constructor
    · rintro ⟨hfirst, hlast⟩
      exact ⟨hspan, by omega, hfirst, hlast⟩
    · rintro ⟨-, -, hfirst, hlast⟩
      exact ⟨hfirst, hlast⟩

/-- What lies in a span that fits, fits. -/
theorem nearSpanFits_inside (hsize : span < 2 ^ 64)
    (h : nearSpanFits start span target reach = true) (hspan : span' ≠ 0)
    (hinside : Inside ⟨start', span'⟩ ⟨start, span⟩) :
    nearSpanFits start' span' target reach = true := by
  obtain ⟨hbegin, hend⟩ := hinside
  dsimp only [Extent.stop] at hbegin hend
  rw [nearSpanFits_iff hsize] at h
  rw [nearSpanFits_iff (by omega)]
  obtain ⟨-, hspace, hfirst, hlast⟩ := h
  unfold distance at hfirst hlast ⊢
  refine ⟨hspan, by omega, ?_, ?_⟩
  · split <;> split at hfirst <;> split at hlast <;> omega
  · split <;> split at hfirst <;> split at hlast <;> omega

end Spans

/-! ## What a scan takes -/

namespace NearStubPages
variable {pool : NearStubPages} {index other : Nat}

theorem isUsed_eq (h : index < 32) : pool.isUsed index = pool.usedPages.getLsbD index := by
  rw [isUsed, ← BitVec.twoPow_eq, BitVec.and_twoPow]
  cases hbit : pool.usedPages.getLsbD index with
  | false => rfl
  | true =>
    rw [if_pos rfl, bne_iff_ne]
    intro hzero
    have hset : (BitVec.twoPow 32 index).getLsbD index = true := by simp [h]
    rw [hzero, BitVec.getLsbD_zero] at hset
    cases hset

theorem isUsed_use (hindex : index < 32) (hother : other < 32) :
    (pool.use index).isUsed other = (pool.isUsed other || decide (other = index)) := by
  rw [isUsed_eq hother, isUsed_eq hother, use, ← BitVec.twoPow_eq, BitVec.getLsbD_or,
    BitVec.getLsbD_twoPow, decide_eq_true hindex, Bool.true_and]
  congr 1
  exact decide_eq_decide.mpr eq_comm

/-- A pool has at most 32 pages, and they start at a multiple of four. -/
structure Wellformed (pool : NearStubPages) : Prop where
  count : pool.pageCount ≤ 32
  base : pool.base % 4 = 0
  size : pool.pageSize % 4 = 0

theorem Wellformed.use (h : pool.Wellformed) : (pool.use index).Wellformed :=
  ⟨h.count, h.base, h.size⟩

/-- A page that is taken is no longer among the free ones. -/
theorem freePages_use (h : pool.Wellformed) (hindex : index < pool.pageCount)
    (hfree : pool.isUsed index = false) :
    (pool.page index :: (pool.use index).freePages).Perm pool.freePages := by
  have hcount := h.count
  have hnodup : ((List.range pool.pageCount).filter fun other => !pool.isUsed other).Nodup :=
    nodup_range.filter _
  have hmem : index ∈ (List.range pool.pageCount).filter fun other => !pool.isUsed other := by
    rw [mem_filter, mem_range, hfree]
    exact ⟨hindex, rfl⟩
  have herase : ((List.range pool.pageCount).filter fun other => !(pool.use index).isUsed other) =
      ((List.range pool.pageCount).filter fun other => !pool.isUsed other).erase index := by
    rw [hnodup.erase_eq_filter, filter_filter]
    apply filter_congr
    intro other hother
    rw [mem_range] at hother
    rw [isUsed_use (by omega) (by omega), Bool.not_or, Bool.and_comm]
    rfl
  have hpages : (pool.use index).freePages =
      (((List.range pool.pageCount).filter fun other => !pool.isUsed other).erase index).map
        pool.page := by
    rw [← herase]
    rfl
  rw [hpages, ← map_cons]
  exact (perm_cons_erase hmem).symm.map pool.page

end NearStubPages

/-- The page that was found, if one was. -/
def foundPage (pageSize : Nat) (found : Option Nat) : List Extent :=
  found.toList.map fun page => ⟨page, pageSize⟩

/-- What was found and what is left were free, and what was found is near. -/
structure Scanned (target reach pageSize : Nat) (before after : List Extent) (found : Option Nat) :
    Prop where
  free : (foundPage pageSize found ++ after).Subperm before
  fits : ∀ page, found = some page →
    nearSpanFits page pageSize target reach = true ∧ page % 4 = 0

section Scans
variable {system : PageSystem} {target reach pageSize : Nat}

theorem Scanned.none (extents : List Extent) :
    Scanned target reach pageSize extents extents none :=
  ⟨List.Subperm.refl _, nofun⟩

/-- The pages of other pools stay as they are. -/
theorem Scanned.append {before after : List Extent} {found : Option Nat}
    (h : Scanned target reach pageSize before after found) (others : List Extent) :
    Scanned target reach pageSize (before ++ others) (after ++ others) found := by
  refine ⟨?_, h.fits⟩
  rw [← append_assoc]
  exact h.free.append (List.Subperm.refl others)

theorem Scanned.prepend {before after : List Extent} {found : Option Nat}
    (h : Scanned target reach pageSize before after found) {others fewer : List Extent}
    (hfewer : fewer.Subperm others) :
    Scanned target reach pageSize (others ++ before) (fewer ++ after) found := by
  refine ⟨?_, h.fits⟩
  rw [← append_assoc]
  refine (perm_append_comm.append_right after).subperm.trans ?_
  rw [append_assoc]
  exact hfewer.append h.free

theorem scanPool_spec (system : PageSystem) (target reach : Nat) (indices : List Nat) :
    ∀ {pool : NearStubPages}, pool.Wellformed → (∀ index ∈ indices, index < pool.pageCount) →
      (scanPool system target reach pool indices).2.Wellformed ∧
        Scanned target reach pool.pageSize pool.freePages
          (scanPool system target reach pool indices).2.freePages
          (scanPool system target reach pool indices).1 := by
  induction indices with
  | nil => exact fun h _ => ⟨h, Scanned.none _⟩
  | cons index indices ih =>
    intro pool h hindices
    rw [forall_mem_cons] at hindices
    obtain ⟨hindex, hrest⟩ := hindices
    rw [scanPool]
    split
    · exact ih h hrest
    next hused =>
      have htaken := pool.freePages_use h hindex (Bool.eq_false_iff.mpr hused)
      dsimp only
      split
      · exact ih h hrest
      next hfits =>
        split
        · refine ⟨h.use, htaken.subperm, ?_⟩
          intro page hpage
          obtain rfl := Option.some.inj hpage
          refine ⟨(Bool.not_eq_false _).mp hfits, ?_⟩
          have hmul : index * pool.pageSize % 4 = 0 := by
            rw [Nat.mul_mod, h.size, Nat.mul_zero, Nat.zero_mod]
          have hbase := h.base
          omega
        · obtain ⟨hwell, hscanned⟩ := @ih (pool.use index) h.use hrest
          refine ⟨hwell, ?_, hscanned.fits⟩
          exact hscanned.free.trans ((sublist_cons_self _ _).subperm.trans htaken.subperm)

/-- All the free pages of several pools. -/
def allFree (pools : List NearStubPages) : List Extent :=
  pools.flatMap NearStubPages.freePages

theorem scanPools_spec (system : PageSystem) (target reach pageSize : Nat)
    {pools : List NearStubPages} (h : ∀ pool ∈ pools, pool.Wellformed) :
    (∀ pool ∈ (scanPools system target reach pageSize pools).2, pool.Wellformed) ∧
      Scanned target reach pageSize (allFree pools)
        (allFree (scanPools system target reach pageSize pools).2)
        (scanPools system target reach pageSize pools).1 := by
  induction pools with
  | nil => exact ⟨nofun, Scanned.none _⟩
  | cons pool pools ih =>
    rw [forall_mem_cons] at h
    obtain ⟨hrest, hscanned⟩ := ih h.2
    have hkept : Scanned target reach pageSize (allFree (pool :: pools))
        (allFree (pool :: (scanPools system target reach pageSize pools).2))
        (scanPools system target reach pageSize pools).1 := by
      exact hscanned.prepend (List.Subperm.refl pool.freePages)
    rw [scanPools]
    split
    · exact ⟨forall_mem_cons.mpr ⟨h.1, hrest⟩, hkept⟩
    next hsize =>
      obtain ⟨hwell, htaken⟩ := scanPool_spec system target reach (List.range pool.pageCount) h.1
        fun index => mem_range.mp
      rw [not_not] at hsize
      rw [hsize] at htaken
      split
      next page pool' hfound =>
        rw [hfound] at hwell htaken
        exact ⟨forall_mem_cons.mpr ⟨hwell, h.2⟩, htaken.append (allFree pools)⟩
      next pool' hfound =>
        rw [hfound] at hwell htaken
        exact ⟨forall_mem_cons.mpr ⟨hwell, hrest⟩, hscanned.prepend htaken.free⟩

end Scans

/-! ## What an allocation takes -/

/-- A pool whose pages are all free. -/
def freshPool (start pageSize pageCount : Nat) : NearStubPages := ⟨start, pageSize, pageCount, 0#32⟩

/-- Mappings start at a page, and are apart from what is mapped. -/
def FreshMappings (system : PageSystem) (pageSize : Nat) (mapped : List Extent) : Prop :=
  ∀ pageCount attempt place start, system.mmap pageCount attempt place = some start →
    start % pageSize = 0 ∧ ∀ extent ∈ mapped, Apart ⟨start, pageSize * pageCount % 2 ^ 64⟩ extent

section Allocation
variable {system : PageSystem} {target reach pageSize pageCount : Nat}

/-- The span of a pool does not wrap around to something else than zero. -/
theorem poolSpan_eq (hpage : ∃ order, pageSize = 2 ^ order) (hcount : pageCount ∈ poolSizes)
    (hspan : pageSize * pageCount % 2 ^ 64 ≠ 0) :
    pageSize * pageCount % 2 ^ 64 = pageSize * pageCount := by
  obtain ⟨order, rfl⟩ := hpage
  obtain ⟨more, rfl⟩ : ∃ more, pageCount = 2 ^ more := by
    simp only [poolSizes, mem_cons, not_mem_nil, or_false] at hcount
    obtain rfl | rfl | rfl := hcount
    · exact ⟨5, rfl⟩
    · exact ⟨3, rfl⟩
    · exact ⟨0, rfl⟩
  rw [← Nat.pow_add] at hspan ⊢
  by_cases hsmall : order + more < 64
  · exact Nat.mod_eq_of_lt (Nat.pow_lt_pow_right (by decide) hsmall)
  · exact absurd (Nat.mod_eq_zero_of_dvd (Nat.pow_dvd_pow 2 (Nat.le_of_not_lt hsmall))) hspan

theorem poolSizes_le (h : pageCount ∈ poolSizes) : 0 < pageCount ∧ pageCount ≤ 32 := by
  simp only [poolSizes, mem_cons, not_mem_nil, or_false] at h
  omega

theorem first_bit : 0#32 ||| 1#32 <<< 0 = 1#32 := by decide

/-- A pool that is reserved is a mapping that fits, with its first page taken. -/
theorem reservePool_eq_some {pool : NearStubPages}
    (h : reservePool system target reach pageSize = some pool) :
    ∃ pageCount ∈ poolSizes, ∃ attempt place start,
      system.mmap pageCount attempt place = some start ∧
        nearSpanFits start (pageSize * pageCount % 2 ^ 64) target reach = true ∧
          pool = (freshPool start pageSize pageCount).use 0 := by
  obtain ⟨pageCount, hcount, hreserved⟩ := exists_of_findSome?_eq_some h
  obtain ⟨mapped, hmapped, rfl⟩ := Option.map_eq_some_iff.mp hreserved
  obtain ⟨⟨place, attempt⟩, -, hanswer⟩ := exists_of_findSome?_eq_some hmapped
  dsimp only at hanswer
  split at hanswer
  next start hstart =>
    split at hanswer
    next hfits =>
      obtain rfl := Option.some.inj hanswer
      refine ⟨pageCount, hcount, attempt, place, start, hstart, hfits, ?_⟩
      rw [NearStubPages.use, freshPool, first_bit]
    next => cases hanswer
  next => cases hanswer

/-- The free pages, the page that was found and what else is mapped stay apart. -/
structure Allocated (target reach pageSize : Nat) (others : List Extent)
    (result : Option Nat × List NearStubPages) : Prop where
  wellformed : ∀ pool ∈ result.2, pool.Wellformed
  apart : (foundPage pageSize result.1 ++ (allFree result.2 ++ others)).Pairwise Apart
  fits : ∀ page, result.1 = some page →
    nearSpanFits page pageSize target reach = true ∧ page % 4 = 0

/-- A new pool, apart from all that is mapped. -/
theorem Allocated.reserve {pools : List NearStubPages} {others : List Extent} {start : Nat}
    (hpage : ∃ order, pageSize = 2 ^ order) (hfour : pageSize % 4 = 0)
    (hcount : pageCount ∈ poolSizes) (hwell : ∀ pool ∈ pools, pool.Wellformed)
    (hapart : (allFree pools ++ others).Pairwise Apart) (hstart : start % pageSize = 0)
    (hfresh : ∀ extent ∈ allFree pools ++ others,
      Apart ⟨start, pageSize * pageCount % 2 ^ 64⟩ extent)
    (hfits : nearSpanFits start (pageSize * pageCount % 2 ^ 64) target reach = true)
    (writable : Bool) :
    Allocated target reach pageSize others (if writable then some start else none,
      pools ++ [(freshPool start pageSize pageCount).use 0]) := by
  have hbound : pageSize * pageCount % 2 ^ 64 < 2 ^ 64 := Nat.mod_lt _ (by decide)
  have hspan := poolSpan_eq hpage hcount ((nearSpanFits_iff hbound).mp hfits).1
  obtain ⟨hpositive, hmost⟩ := poolSizes_le hcount
  have hsize : 0 < pageSize := by
    obtain ⟨order, rfl⟩ := hpage
    exact Nat.two_pow_pos order
  have hbase : start % 4 = 0 := by
    rw [← Nat.div_add_mod start pageSize, hstart, Nat.add_zero, Nat.mul_mod, hfour, Nat.zero_mul,
      Nat.zero_mod]
  have hnew : (freshPool start pageSize pageCount).Wellformed := ⟨hmost, hbase, hfour⟩
  have hunused : (freshPool start pageSize pageCount).isUsed 0 = false := by
    rw [NearStubPages.isUsed_eq (by decide), freshPool, BitVec.getLsbD_zero]
  have htaken := (freshPool start pageSize pageCount).freePages_use hnew hpositive hunused
  have hfirst : (freshPool start pageSize pageCount).page 0 = ⟨start, pageSize⟩ := by
    show Extent.mk (start + 0 * pageSize) pageSize = _
    rw [Nat.zero_mul, Nat.add_zero]
  have hpages : ((freshPool start pageSize pageCount).freePages ++
      (allFree pools ++ others)).Pairwise Apart := by
    refine @parts_pairwise _ start pageSize _ pageCount (nodup_range.filter _) ?_ ?_ hapart
    · intro index hindex
      exact mem_range.mp (mem_filter.mp hindex).1
    · rw [← hspan]
      exact hfresh
  have hfound : (foundPage pageSize (if writable then some start else none)).Subperm
      [⟨start, pageSize⟩] := by
    cases writable with
    | true => exact List.Subperm.refl _
    | false => exact nil_subperm
  refine ⟨?_, ?_, ?_⟩
  · intro pool hpool
    obtain hpool | hpool := mem_append.mp hpool
    · exact hwell pool hpool
    · rw [mem_singleton.mp hpool]
      exact hnew.use
  · refine pairwise_of_subperm ?_ hpages
    have hall : allFree (pools ++ [(freshPool start pageSize pageCount).use 0]) ++ others =
        allFree pools ++ (((freshPool start pageSize pageCount).use 0).freePages ++ others) := by
      simp only [allFree, flatMap_append, flatMap_cons, flatMap_nil,
        append_nil, append_assoc]
    have hmove : (allFree pools ++ (((freshPool start pageSize pageCount).use 0).freePages ++
        others)).Perm (((freshPool start pageSize pageCount).use 0).freePages ++
          (allFree pools ++ others)) := by
      rw [← append_assoc, ← append_assoc]
      exact perm_append_comm.append_right others
    rw [hall]
    refine (hfound.append hmove.subperm).trans ?_
    rw [← append_assoc, singleton_append, ← hfirst]
    exact (htaken.append_right _).subperm
  · intro page hpage
    dsimp only at hpage
    split at hpage
    · obtain rfl := Option.some.inj hpage
      refine ⟨nearSpanFits_inside hbound hfits (by omega) ?_, hbase⟩
      rw [hspan]
      have hinside := @part_inside start pageSize 0 pageCount hpositive
      rwa [part, Nat.zero_mul, Nat.add_zero] at hinside
    · cases hpage

/-- `AllocateNearStubPage` takes a page that was free or is new. -/
theorem allocateNearStubPage_spec {pools : List NearStubPages} {others : List Extent}
    (hpage : ∃ order, pageSize = 2 ^ order) (hfour : pageSize % 4 = 0)
    (hwell : ∀ pool ∈ pools, pool.Wellformed) (hapart : (allFree pools ++ others).Pairwise Apart)
    (hfresh : FreshMappings system pageSize
      (allFree (scanPools system target reach pageSize pools).2 ++ others)) :
    Allocated target reach pageSize others
      (allocateNearStubPage system target reach pageSize pools) := by
  obtain ⟨hwell', hscanned⟩ :=
    scanPools_spec system target reach pageSize hwell
  have hkept : Allocated target reach pageSize others
      (scanPools system target reach pageSize pools) := by
    refine ⟨hwell', pairwise_of_subperm ?_ hapart, hscanned.fits⟩
    rw [← append_assoc]
    exact hscanned.free.append (List.Subperm.refl others)
  unfold allocateNearStubPage
  split
  next page pools' hfound =>
    rw [← hfound]
    exact hkept
  next pools' hfound =>
    rw [hfound] at hkept hfresh
    split
    · exact hkept
    split
    · exact hkept
    next pool hpool =>
      obtain ⟨pageCount, hcount, attempt, place, start, hstart, hfits, rfl⟩ :=
        reservePool_eq_some hpool
      obtain ⟨haligned, hnew⟩ := hfresh _ _ _ _ hstart
      exact Allocated.reserve hpage hfour hcount hkept.wellformed hkept.apart haligned hnew hfits _

end Allocation

end DartPlant
