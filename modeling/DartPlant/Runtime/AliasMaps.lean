import DartPlant.Lib.Tally
import DartPlant.Runtime.StableDirectory
import Mathlib.Data.List.Induction
import Mathlib.Logic.Function.Basic

/-! # The alias maps of a directory

The alias counts of a directory are taken from four maps, one for each kind of entry, that are filled
in one walk over the canonical records.  What the maps hold is how many records enter at an address,
so that the counts are those of the directory itself.
-/

namespace DartPlant
open Tally List

/-- `UINT32_MAX`, where an alias counter stops. -/
def kAliasCounterLimit : Nat := 4294967295

/-- `aliases_by_kind`. -/
abbrev AliasMaps := DartPlantEntryKind → List (Address × Nat)

/-- One kind of entry of one record. -/
def observeEntry (function : DartPlantLiveVmFunctionInfo) (maps : AliasMaps)
    (kind : DartPlantEntryKind) : Option AliasMaps :=
  if function.hasEntry kind = false then some maps
  else if function.entryPoints.get kind = 0 then none
  else some (Function.update maps kind
    (observe kAliasCounterLimit (maps kind) (function.entryPoints.get kind)))

/-- One record. -/
def observeFunction (maps : AliasMaps) (function : DartPlantLiveVmFunctionInfo) :
    Option AliasMaps :=
  if function.entryKindMask = 0 then none else entryKinds.foldlM (observeEntry function) maps

/-- The count that is found in a map; zero is none. -/
def findAliasCount (maps : AliasMaps) (kind : DartPlantEntryKind) (entry : Address) :
    Option (BitVec 32) :=
  (((maps kind).lookup entry).filter fun count => count ≠ 0).map (BitVec.ofNat 32)

/-- The alias counts of a canonical record. -/
def assignInfoCounts (maps : AliasMaps) (function : DartPlantLiveVmFunctionInfo) :
    Option DartPlantLiveVmFunctionInfo :=
  let count (kind : DartPlantEntryKind) : Option (BitVec 32) :=
    if function.hasEntry kind then findAliasCount maps kind (function.entryPoints.get kind)
    else some 0
  (count .default).bind fun default =>
  (count .unchecked).bind fun unchecked =>
  (count .monomorphic).bind fun monomorphic =>
  (count .monomorphicUnchecked).map fun monomorphicUnchecked =>
    { function with
      entryAliasCounts := ⟨default, unchecked, monomorphic, monomorphicUnchecked⟩
      entryAliasCount := default
      entryIsShared := decide (default > 1) }

/-- The alias count of an entry record. -/
def assignFunctionCount (maps : AliasMaps) (function : SnapshotFunction) :
    Option SnapshotFunction :=
  if function.live = false then some function
  else if function.runtimeEntry = 0 then none
  else (findAliasCount maps function.entryKind function.runtimeEntry).map fun count =>
    { function with entryAliasCount := count }

/-- `RecomputeLiveDirectoryAliasMetadata`, walk by walk.  A directory has no more shared targets
than records, so that their counter does not stop at its limit. -/
def recomputeByMaps (index : SnapshotIndex) (skippedFunctionCount : Nat) :
    Option (SnapshotIndex × DartPlantLiveVmFunctionIndexInfo) :=
  if index.liveFunctionInfos.length > kAliasCounterLimit then none
  else
    (index.liveFunctionInfos.foldlM observeFunction fun _ => []).bind fun maps =>
    (index.liveFunctionInfos.mapM (assignInfoCounts maps)).bind fun infos =>
    (index.functions.mapM (assignFunctionCount maps)).map fun functions =>
      ({ index with liveFunctionInfos := infos, functions := functions },
        { structSize := kLiveVmFunctionIndexInfoSize
          functionCount := infos.length
          codeTargetCount := (maps .default).length
          sharedCodeTargetCount := (maps .default).countP fun entry => decide (entry.2 > 1)
          skippedFunctionCount := skippedFunctionCount })

/-! ## What the maps hold -/

/-- The entries of a kind, in the order of the records. -/
def entriesOfKind (infos : List DartPlantLiveVmFunctionInfo) (kind : DartPlantEntryKind) :
    List Address :=
  (infos.filter fun function => function.hasEntry kind).map fun function =>
    function.entryPoints.get kind

/-- A record has an entry at each kind of its mask, and some kind. -/
def completeInfo (function : DartPlantLiveVmFunctionInfo) : Bool :=
  function.entryKindMask != 0 && entryKinds.all fun kind =>
    !function.hasEntry kind || function.entryPoints.get kind != 0

section Maps
variable {infos : List DartPlantLiveVmFunctionInfo} {maps : AliasMaps}
  {function : DartPlantLiveVmFunctionInfo}

theorem aliasesByKind_eq (infos : List DartPlantLiveVmFunctionInfo) (kind : DartPlantEntryKind)
    (entry : Address) : aliasesByKind infos kind entry = (entriesOfKind infos kind).count entry := by
  rw [entriesOfKind, count_eq_countP, countP_map, countP_filter]
  exact countP_congr fun function _ => by
    rw [Bool.and_comm]
    rfl

/-- The maps after the entries of some kinds of a record. -/
def observed (function : DartPlantLiveVmFunctionInfo) (kinds : List DartPlantEntryKind)
    (maps : AliasMaps) : AliasMaps :=
  fun kind =>
    if kind ∈ kinds ∧ function.hasEntry kind = true then
      observe kAliasCounterLimit (maps kind) (function.entryPoints.get kind)
    else maps kind

theorem observed_cons {kind : DartPlantEntryKind} {kinds : List DartPlantEntryKind}
    (hnew : kind ∉ kinds) {maps maps' : AliasMaps}
    (hself : maps' kind = observed function [kind] maps kind)
    (hother : ∀ other, other ≠ kind → maps' other = maps other) :
    observed function kinds maps' = observed function (kind :: kinds) maps := by
  funext other
  have hmem : other ∈ kind :: kinds ↔ other = kind ∨ other ∈ kinds := mem_cons
  by_cases hkind : other = kind
  · subst hkind
    have hskip : observed function kinds maps' other = maps' other := if_neg fun h => hnew h.1
    rw [hskip, hself]
    simp only [observed, mem_singleton, hmem, true_or, true_and]
  · simp only [observed, hmem, hkind, false_or, hother other hkind]

/-- Each kind is observed in its own map. -/
theorem observeEntries_eq {kinds : List DartPlantEntryKind} (hdistinct : kinds.Nodup) :
    kinds.foldlM (observeEntry function) maps =
      if kinds.all fun kind => !function.hasEntry kind || function.entryPoints.get kind != 0 then
        some (observed function kinds maps)
      else none := by
  induction kinds generalizing maps with
  | nil =>
    refine congrArg some (funext fun kind => (if_neg fun h => ?_).symm)
    exact not_mem_nil h.1
  | cons kind kinds ih =>
    obtain ⟨hnew, hdistinct⟩ := nodup_cons.mp hdistinct
    rw [foldlM_cons, all_cons]
    by_cases hentry : function.hasEntry kind = true
    · by_cases hzero : function.entryPoints.get kind = 0
      · have hnone : observeEntry function maps kind = none := by
          unfold observeEntry
          rw [hentry, if_neg (by decide), if_pos hzero]
        rw [hnone, hentry, hzero]
        rfl
      · have hsome : observeEntry function maps kind = some (Function.update maps kind
            (observe kAliasCounterLimit (maps kind) (function.entryPoints.get kind))) := by
          unfold observeEntry
          rw [hentry, if_neg (by decide), if_neg hzero]
        rw [hsome, hentry, bne_iff_ne.mpr hzero, Bool.not_true, Bool.false_or, Bool.true_and]
        refine (ih hdistinct).trans (if_congr Iff.rfl (congrArg some ?_) rfl)
        refine observed_cons hnew ?_ fun other hother => Function.update_of_ne hother _ _
        rw [Function.update_self]
        exact (if_pos ⟨mem_singleton.mpr rfl, hentry⟩).symm
    · rw [Bool.not_eq_true] at hentry
      have hsome : observeEntry function maps kind = some maps := if_pos hentry
      rw [hsome, hentry, Bool.not_false, Bool.true_or, Bool.true_and]
      refine (ih hdistinct).trans (if_congr Iff.rfl (congrArg some ?_) rfl)
      refine observed_cons hnew ?_ fun _ _ => rfl
      exact (if_neg fun h => absurd (hentry.symm.trans h.2) Bool.false_ne_true).symm

theorem observeFunction_eq (maps : AliasMaps) (function : DartPlantLiveVmFunctionInfo) :
    observeFunction maps function =
      if completeInfo function then some (observed function entryKinds maps) else none := by
  unfold observeFunction completeInfo
  by_cases hmask : function.entryKindMask = 0
  · rw [if_pos hmask, hmask]
    rfl
  · rw [if_neg hmask, observeEntries_eq (by decide), bne_iff_ne.mpr hmask, Bool.true_and]

/-- The maps after a walk over records are the tallies of their entries. -/
theorem observeFunctions_eq (infos : List DartPlantLiveVmFunctionInfo) :
    (infos.foldlM observeFunction fun _ => []) =
      if infos.all completeInfo then
        some fun kind => tally kAliasCounterLimit (entriesOfKind infos kind)
      else none := by
  induction infos using List.reverseRecOn with
  | nil => rfl
  | append_singleton infos function ih =>
    rw [foldlM_append, ih, all_append, all_cons, all_nil, Bool.and_true]
    by_cases hinfos : infos.all completeInfo = true
    · rw [if_pos hinfos, hinfos, Bool.true_and]
      show ([function].foldlM observeFunction _) = _
      rw [foldlM_cons, observeFunction_eq]
      by_cases hfunction : completeInfo function = true
      · rw [if_pos hfunction, if_pos hfunction]
        refine congrArg some (funext fun kind => ?_)
        have hkind : kind ∈ entryKinds := by
          cases kind <;> decide
        unfold observed entriesOfKind
        rw [filter_append, map_append]
        by_cases hentry : function.hasEntry kind = true
        · have hkept : [function].filter (fun function => function.hasEntry kind) = [function] :=
            filter_cons_of_pos hentry
          rw [if_pos ⟨hkind, hentry⟩, hkept, map_singleton, tally_concat]
        · have hdropped : [function].filter (fun function => function.hasEntry kind) = [] :=
            filter_cons_of_neg hentry
          rw [if_neg fun h => hentry h.2, hdropped, map_nil, append_nil]
      · rw [if_neg hfunction, if_neg hfunction]
        rfl
    · rw [if_neg hinfos, Bool.eq_false_iff.mpr hinfos, Bool.false_and, if_neg Bool.false_ne_true]
      rfl

/-- A count is found for an entry of the directory, and for no other. -/
theorem findAliasCount_tally (infos : List DartPlantLiveVmFunctionInfo) (kind : DartPlantEntryKind)
    (entry : Address) :
    findAliasCount (fun kind => tally kAliasCounterLimit (entriesOfKind infos kind)) kind entry =
      if aliasesByKind infos kind entry = 0 then none
      else some (saturated (aliasesByKind infos kind entry)) := by
  unfold findAliasCount saturated
  rw [lookup_tally, aliasesByKind_eq]
  by_cases hmem : entry ∈ entriesOfKind infos kind
  · have hpos := count_pos_iff.mpr hmem
    have hmin : min ((entriesOfKind infos kind).count entry) kAliasCounterLimit ≠ 0 := by
      unfold kAliasCounterLimit
      omega
    rw [if_pos hmem, if_neg (by omega), Option.filter_some, if_pos (decide_eq_true hmin)]
    rfl
  · rw [if_neg hmem, if_pos (count_eq_zero_of_not_mem hmem)]
    rfl

/-- A canonical record gets the counts of the directory. -/
theorem assignInfoCounts_tally (hmem : function ∈ infos) :
    assignInfoCounts (fun kind => tally kAliasCounterLimit (entriesOfKind infos kind)) function =
      some (recountInfo infos function) := by
  have hcount (kind : DartPlantEntryKind) :
      (if function.hasEntry kind then
        findAliasCount (fun kind => tally kAliasCounterLimit (entriesOfKind infos kind)) kind
          (function.entryPoints.get kind)
        else some 0) =
      some (if function.hasEntry kind then
        saturated (aliasesByKind infos kind (function.entryPoints.get kind)) else 0) := by
    by_cases hentry : function.hasEntry kind = true
    · have hne : aliasesByKind infos kind (function.entryPoints.get kind) ≠ 0 := by
        refine Nat.ne_of_gt (countP_pos_iff.mpr ⟨function, hmem, ?_⟩)
        rw [hentry, Bool.true_and, beq_self_eq_true]
      rw [if_pos hentry, if_pos hentry, findAliasCount_tally, if_neg hne]
    · rw [if_neg hentry, if_neg hentry]
  unfold assignInfoCounts recountInfo
  simp only [hcount]
  rfl

/-- What recounting asks of an entry record. -/
def completeFunction (infos : List DartPlantLiveVmFunctionInfo) (function : SnapshotFunction) :
    Bool :=
  !function.live || (function.runtimeEntry != 0 &&
    aliasesByKind infos function.entryKind function.runtimeEntry != 0)

theorem assignFunctionCount_tally (infos : List DartPlantLiveVmFunctionInfo)
    (function : SnapshotFunction) :
    assignFunctionCount (fun kind => tally kAliasCounterLimit (entriesOfKind infos kind)) function =
      if completeFunction infos function then some (recountFunction infos function) else none := by
  unfold assignFunctionCount completeFunction recountFunction
  rw [findAliasCount_tally]
  cases hlive : function.live with
  | false => rfl
  | true =>
    by_cases hentry : function.runtimeEntry = 0
    · rw [if_neg (by decide), if_pos hentry, hentry]
      rfl
    · rw [if_neg (by decide), if_neg hentry, bne_iff_ne.mpr hentry]
      by_cases hcount : aliasesByKind infos function.entryKind function.runtimeEntry = 0
      · rw [if_pos hcount, hcount]
        rfl
      · rw [if_neg hcount, bne_iff_ne.mpr hcount]
        rfl

end Maps

/-- A walk that succeeds everywhere maps every element. -/
theorem mapM_eq_map {α β : Type} {f : α → Option β} {g : α → β} {items : List α}
    (h : ∀ item ∈ items, f item = some (g item)) : items.mapM f = some (items.map g) := by
  induction items with
  | nil => rfl
  | cons item items ih =>
    rw [mapM_cons, h item mem_cons_self,
      ih fun other hmem => h other (mem_cons_of_mem _ hmem)]
    rfl

theorem mapM_eq_none {α β : Type} {f : α → Option β} {items : List α} {item : α}
    (hmem : item ∈ items) (h : f item = none) : items.mapM f = none := by
  induction items with
  | nil => cases hmem
  | cons first items ih =>
    rw [mapM_cons]
    rcases mem_cons.mp hmem with rfl | hmem
    · rw [h]
      rfl
    · rw [ih hmem]
      cases f first <;> rfl

/-- A counter is beyond one when its key is. -/
theorem shared_iff (count : Nat) : min count kAliasCounterLimit > 1 ↔ count > 1 := by
  unfold kAliasCounterLimit
  omega

/-- The walks compute the counts of the directory. -/
theorem recomputeByMaps_eq (index : SnapshotIndex) (skippedFunctionCount : Nat) :
    recomputeByMaps index skippedFunctionCount =
      recomputeLiveDirectoryAliasMetadata index skippedFunctionCount := by
  unfold recomputeByMaps recomputeLiveDirectoryAliasMetadata
  dsimp only
  rw [observeFunctions_eq]
  change _ = if index.liveFunctionInfos.length > kAliasCounterLimit ∨
      index.liveFunctionInfos.all completeInfo = false ∨
      index.functions.all (completeFunction index.liveFunctionInfos) = false then none else _
  by_cases hlength : index.liveFunctionInfos.length > kAliasCounterLimit
  · rw [if_pos hlength, if_pos (.inl hlength)]
  by_cases hinfos : index.liveFunctionInfos.all completeInfo = true
  · rw [if_neg hlength, if_pos hinfos, Option.bind_some,
      mapM_eq_map fun function hmem => assignInfoCounts_tally hmem, Option.bind_some]
    by_cases hfunctions :
        index.functions.all (completeFunction index.liveFunctionInfos) = true
    · have hassign : index.functions.mapM (assignFunctionCount fun kind =>
          tally kAliasCounterLimit (entriesOfKind index.liveFunctionInfos kind)) =
          some (index.functions.map (recountFunction index.liveFunctionInfos)) :=
        mapM_eq_map fun function hmem => by
          rw [assignFunctionCount_tally, if_pos (all_eq_true.mp hfunctions function hmem)]
      have hnone : ¬(index.liveFunctionInfos.length > kAliasCounterLimit ∨
          index.liveFunctionInfos.all completeInfo = false ∨
          index.functions.all (completeFunction index.liveFunctionInfos) = false) := by
        rw [hinfos, hfunctions]
        rintro (h | h | h)
        · exact hlength h
        · cases h
        · cases h
      rw [if_neg hnone, hassign, Option.map_some, tally_length, length_map]
      refine congrArg some (congrArg (Prod.mk _) ?_)
      have hshared : (tally kAliasCounterLimit
          (entriesOfKind index.liveFunctionInfos .default)).countP
            (fun entry => decide (entry.2 > 1)) =
          (entriesOfKind index.liveFunctionInfos .default).dedup.countP
            fun entry => decide (aliasesByKind index.liveFunctionInfos .default entry > 1) := by
        rw [tally_countP _ fun count => decide (count > 1)]
        refine countP_congr fun entry _ => ?_
        rw [decide_eq_true_iff, decide_eq_true_iff, shared_iff, aliasesByKind_eq]
      rw [hshared]
      rfl
    · obtain ⟨function, hmem, hfunction⟩ : ∃ function ∈ index.functions,
          ¬completeFunction index.liveFunctionInfos function = true := by
        simpa using hfunctions
      rw [if_pos (.inr (.inr (Bool.eq_false_iff.mpr hfunctions))), mapM_eq_none hmem]
      · rfl
      · rw [assignFunctionCount_tally, if_neg hfunction]
  · rw [if_neg hlength, if_neg hinfos, if_pos (.inr (.inl (Bool.eq_false_iff.mpr hinfos)))]
    rfl

end DartPlant
