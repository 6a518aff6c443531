import Mathlib.Data.List.Perm.Subperm

/-! # Searching through an index

Records are searched for a key.  A scan reads them one after the other, and the records of the key
have to say the same.  An index lists a few records for every bucket, and a scan of the bucket of
the key answers what a scan of all of them answers (`Indexes.scan_chain`).

A bucket is a linked chain up to a stop, or a run of consecutive places up to a last one.  A chain
that ends visits no place twice (`Linked.nodup`).
-/

namespace DartPlant.HashIndex
open List

/-! ## Scans -/

/-- What a search finds. -/
inductive Answer (σ : Type) where
  | found (value : σ)
  | absent
  | rejected
  deriving DecidableEq

/-- The answer at the end of a scan. -/
def Answer.ofCandidate {σ : Type} : Option σ → Answer σ
  | none => .absent
  | some value => .found value

section Scan
variable {ι κ σ : Type} [DecidableEq κ] [DecidableEq σ]

/-- A scan of the records for a key.  A record of the key must have a value, and the one that an
earlier record of the key had. -/
def scan (key : ι → Option κ) (value : ι → Option σ) (wanted : κ) :
    Option σ → List ι → Answer σ
  | candidate, [] => .ofCandidate candidate
  | candidate, record :: rest =>
    if key record = some wanted then
      match value record with
      | none => .rejected
      | some found =>
        if candidate = none ∨ candidate = some found then scan key value wanted (some found) rest
        else .rejected
    else scan key value wanted candidate rest

variable {key : ι → Option κ} {value : ι → Option σ} {wanted : κ} {candidate : Option σ}
  {records more : List ι} {record : ι} {found : σ}

theorem scan_cons_of_ne (h : key record ≠ some wanted) :
    scan key value wanted candidate (record :: records) =
      scan key value wanted candidate records := by
  rw [scan, if_neg h]

theorem scan_cons_of_none (h : key record = some wanted) (hvalue : value record = none) :
    scan key value wanted candidate (record :: records) = .rejected := by
  rw [scan, if_pos h, hvalue]

theorem scan_cons_of_agree (h : key record = some wanted) (hvalue : value record = some found)
    (hagree : candidate = none ∨ candidate = some found) :
    scan key value wanted candidate (record :: records) =
      scan key value wanted (some found) records := by
  rw [scan, if_pos h, hvalue]
  exact if_pos hagree

theorem scan_cons_of_dispute (h : key record = some wanted) (hvalue : value record = some found)
    (hdispute : ¬(candidate = none ∨ candidate = some found)) :
    scan key value wanted candidate (record :: records) = .rejected := by
  rw [scan, if_pos h, hvalue]
  exact if_neg hdispute

/-- With a candidate, a value is found when it is the candidate and every record of the key has
it. -/
theorem scan_some_eq_found_iff {first : σ} :
    scan key value wanted (some first) records = .found found ↔
      first = found ∧ ∀ record ∈ records, key record = some wanted → value record = some found := by
  induction records with
  | nil =>
    rw [scan, Answer.ofCandidate, Answer.found.injEq]
    exact ⟨fun h => ⟨h, fun _ hmem => absurd hmem not_mem_nil⟩, fun h => h.1⟩
  | cons record rest ih =>
    rw [forall_mem_cons]
    by_cases hkey : key record = some wanted
    · cases hvalue : value record with
      | none =>
        rw [scan_cons_of_none hkey hvalue]
        exact ⟨fun h => absurd h nofun, fun h => absurd (h.2.1 hkey) nofun⟩
      | some other =>
        by_cases hagree : first = other
        · subst hagree
          rw [scan_cons_of_agree hkey hvalue (Or.inr rfl), ih]
          refine ⟨fun h => ⟨h.1, fun _ => by rw [h.1], h.2⟩, fun h => ⟨h.1, h.2.2⟩⟩
        · rw [scan_cons_of_dispute hkey hvalue (by simpa using hagree)]
          refine ⟨fun h => absurd h nofun, fun h => absurd ?_ hagree⟩
          rw [h.1, Option.some.inj (h.2.1 hkey)]
    · rw [scan_cons_of_ne hkey, ih]
      exact ⟨fun h => ⟨h.1, fun hwanted => absurd hwanted hkey, h.2⟩, fun h => ⟨h.1, h.2.2⟩⟩

/-- A value is found when some record has the key and every record of the key has the value. -/
theorem scan_eq_found_iff : scan key value wanted none records = .found found ↔
    (∃ record ∈ records, key record = some wanted) ∧
      ∀ record ∈ records, key record = some wanted → value record = some found := by
  induction records with
  | nil =>
    refine ⟨fun h => absurd h nofun, ?_⟩
    rintro ⟨⟨_, hmem, -⟩, -⟩
    exact absurd hmem not_mem_nil
  | cons record rest ih =>
    rw [forall_mem_cons, exists_mem_cons_iff]
    by_cases hkey : key record = some wanted
    · cases hvalue : value record with
      | none =>
        rw [scan_cons_of_none hkey hvalue]
        exact ⟨fun h => absurd h nofun, fun h => absurd (h.2.1 hkey) nofun⟩
      | some other =>
        rw [scan_cons_of_agree hkey hvalue (Or.inl rfl), scan_some_eq_found_iff]
        refine ⟨fun h => ⟨Or.inl hkey, fun _ => by rw [h.1], h.2⟩, fun h => ⟨?_, h.2.2⟩⟩
        exact Option.some.inj (h.2.1 hkey)
    · rw [scan_cons_of_ne hkey, ih]
      constructor
      · intro h
        exact ⟨Or.inr h.1, fun hwanted => absurd hwanted hkey, h.2⟩
      · intro h
        exact ⟨h.1.resolve_left hkey, h.2.2⟩

theorem scan_some_ne_absent {first : σ} :
    scan key value wanted (some first) records ≠ .absent := by
  induction records generalizing first with
  | nil => nofun
  | cons record rest ih =>
    rw [scan]
    split
    · split
      · nofun
      · split
        · exact ih
        · nofun
    · exact ih

/-- Nothing is found when no record has the key. -/
theorem scan_eq_absent_iff : scan key value wanted none records = .absent ↔
    ∀ record ∈ records, key record ≠ some wanted := by
  induction records with
  | nil => exact ⟨fun _ _ hmem => absurd hmem not_mem_nil, fun _ => rfl⟩
  | cons record rest ih =>
    rw [forall_mem_cons]
    by_cases hkey : key record = some wanted
    · refine ⟨fun h => absurd h ?_, fun h => absurd hkey h.1⟩
      cases hvalue : value record with
      | none =>
        rw [scan_cons_of_none hkey hvalue]
        nofun
      | some other =>
        rw [scan_cons_of_agree hkey hvalue (Or.inl rfl)]
        exact scan_some_ne_absent
    · rw [scan_cons_of_ne hkey, ih]
      exact ⟨fun h => ⟨hkey, h⟩, fun h => h.2⟩

omit [DecidableEq σ] in
/-- What is found, and whether anything is there, determine the answer. -/
theorem Answer.eq_of_iff {left right : Answer σ}
    (hfound : ∀ value, left = .found value ↔ right = .found value)
    (habsent : left = .absent ↔ right = .absent) : left = right := by
  cases left with
  | found value => exact ((hfound value).mp rfl).symm
  | absent => exact (habsent.mp rfl).symm
  | rejected =>
    cases right with
    | found value => exact (hfound value).mpr rfl
    | absent => exact habsent.mpr rfl
    | rejected => rfl

/-- A scan depends on the records of the key only, and not on their order. -/
theorem scan_congr
    (h : ∀ record, key record = some wanted → (record ∈ records ↔ record ∈ more)) :
    scan key value wanted none records = scan key value wanted none more := by
  refine Answer.eq_of_iff (fun found => ?_) ?_
  · rw [scan_eq_found_iff, scan_eq_found_iff]
    refine and_congr ⟨?_, ?_⟩ (forall_congr' fun record => ?_)
    · rintro ⟨record, hmem, hkey⟩
      exact ⟨record, (h record hkey).mp hmem, hkey⟩
    · rintro ⟨record, hmem, hkey⟩
      exact ⟨record, (h record hkey).mpr hmem, hkey⟩
    · exact ⟨fun hall hmem hkey => hall ((h record hkey).mpr hmem) hkey,
        fun hall hmem hkey => hall ((h record hkey).mp hmem) hkey⟩
  · rw [scan_eq_absent_iff, scan_eq_absent_iff]
    refine forall_congr' fun record => ?_
    exact ⟨fun hall hmem hkey => hall ((h record hkey).mpr hmem) hkey,
      fun hall hmem hkey => hall ((h record hkey).mp hmem) hkey⟩

end Scan

/-! ## Indexes -/

section Index
variable {ι κ β σ : Type}

/-- Every bucket lists records, and every record is in the bucket of its key. -/
structure Indexes (records : List ι) (key : ι → Option κ) (bucketOf : κ → β)
    (chain : β → List ι) : Prop where
  sound : ∀ wanted, ∀ record ∈ chain (bucketOf wanted), record ∈ records
  complete : ∀ record ∈ records, ∀ wanted, key record = some wanted →
    record ∈ chain (bucketOf wanted)

variable [DecidableEq κ] [DecidableEq σ] {records : List ι} {key : ι → Option κ}
  {bucketOf : κ → β} {chain : β → List ι} {value : ι → Option σ} {wanted : κ}

/-- A scan of the bucket of the key answers what a scan of all records answers. -/
theorem Indexes.scan_chain (h : Indexes records key bucketOf chain) :
    scan key value wanted none (chain (bucketOf wanted)) =
      scan key value wanted none records := by
  apply scan_congr
  intro record hkey
  exact ⟨h.sound wanted record, fun hmem => h.complete record hmem wanted hkey⟩

end Index

/-! ## Linked chains -/

section Linked
variable {ι : Type} {next : ι → ι} {stop place : ι} {chain : List ι}

/-- The list has the places of the chain from a place on, up to the stop. -/
inductive Linked (next : ι → ι) (stop : ι) : ι → List ι → Prop where
  | stop : Linked next stop stop []
  | link {place : ι} {rest : List ι} (hplace : place ≠ stop)
      (hrest : Linked next stop (next place) rest) : Linked next stop place (place :: rest)

theorem Linked.unique {other : List ι} (h : Linked next stop place chain)
    (hother : Linked next stop place other) : chain = other := by
  induction h generalizing other with
  | stop =>
    cases hother with
    | stop => rfl
    | link hplace => exact absurd rfl hplace
  | link hplace _ ih =>
    cases hother with
    | stop => exact absurd rfl hplace
    | link _ hrest => rw [ih hrest]

/-- A chain goes on from each of its places. -/
theorem Linked.from_mem (h : Linked next stop place chain) {inner : ι} (hmem : inner ∈ chain) :
    ∃ rest, Linked next stop inner rest ∧ rest.length ≤ chain.length := by
  induction h with
  | stop => exact absurd hmem not_mem_nil
  | link hplace hrest ih =>
    rcases mem_cons.mp hmem with rfl | hmem
    · exact ⟨_, .link hplace hrest, Nat.le_refl _⟩
    · obtain ⟨rest, hlinked, hlength⟩ := ih hmem
      exact ⟨rest, hlinked, Nat.le_succ_of_le hlength⟩

/-- A chain that ends visits no place twice. -/
theorem Linked.nodup (h : Linked next stop place chain) : chain.Nodup := by
  induction h with
  | stop => exact nodup_nil
  | link hplace hrest ih =>
    refine nodup_cons.mpr ⟨fun hmem => ?_, ih⟩
    -- The chain from the second visit on would be the whole chain again.
    obtain ⟨rest, hlinked, hlength⟩ := hrest.from_mem hmem
    rw [hlinked.unique (.link hplace hrest)] at hlength
    exact absurd hlength (Nat.not_succ_le_self _)

/-- No place of a chain that ends is linked to itself. -/
theorem Linked.next_ne {rest : List ι} (h : Linked next stop place (place :: rest)) :
    next place ≠ place := by
  intro hself
  have hnodup := h.nodup
  cases h with
  | link hplace hrest =>
    rw [hself] at hrest
    cases hrest with
    | stop => exact hplace rfl
    | link _ hagain => exact (nodup_cons.mp hnodup).1 mem_cons_self

end Linked

/-- A chain visits at most as many places as there are. -/
theorem Linked.length_le {next : Nat → Nat} {stop place bound : Nat} {chain : List Nat}
    (h : Linked next stop place chain) (hbound : ∀ inner ∈ chain, inner < bound) :
    chain.length ≤ bound := by
  have hsubset : chain ⊆ List.range bound := by
    intro inner hmem
    exact mem_range.mpr (hbound inner hmem)
  calc chain.length ≤ (List.range bound).length := (h.nodup.subperm hsubset).length_le
    _ = bound := length_range

/-! ## Runs -/

/-- The list has the consecutive places from a place on, up to the last one of the run. -/
inductive Run (last : Nat → Bool) : Nat → List Nat → Prop where
  | last {place : Nat} (hlast : last place = true) : Run last place [place]
  | next {place : Nat} {rest : List Nat} (hnext : last place = false)
      (hrest : Run last (place + 1) rest) : Run last place (place :: rest)

theorem Run.mem_start {last : Nat → Bool} {start : Nat} {run : List Nat}
    (h : Run last start run) : start ∈ run := by
  cases h with
  | last => exact mem_singleton_self _
  | next => exact mem_cons_self

theorem Run.length_le {last : Nat → Bool} {start bound : Nat} {run : List Nat}
    (h : Run last start run) (hbound : ∀ place ∈ run, place < bound) :
    start + run.length ≤ bound := by
  induction h with
  | last => exact hbound _ (mem_singleton_self _)
  | next _ _ ih =>
    have hrest := ih fun place hmem => hbound place (mem_cons_of_mem _ hmem)
    rw [length_cons]
    omega

end DartPlant.HashIndex
