import DartPlant.Elf.ProgramHeaders
import DartPlant.Lib.FallibleLoop

/-! # The file and the loaded image

The loads of a parsed image are disjoint, so that an address is backed by the file through one load
at most.  Every loop over the headers passes over the others, and what it answers can be read off
that one load.  A loaded image whose memory has the bytes of the file is read as the file is
(`file_and_loaded_views_agree`).
-/

namespace DartPlant
open NoteFormat ElfProgramHeaderView List

/-! ## Valid loads -/

/-- What the validation of the segments establishes. -/
structure ValidLoads (bytes : List Byte) (headers : List ElfProgramHeaderView) : Prop where
  ordered : headers.Pairwise fun left right => left.type = kPtLoad → right.type = kPtLoad →
    left.virtualAddress + left.memorySize ≤ right.virtualAddress
  sizes : ∀ header ∈ headers, header.type = kPtLoad → header.fileSize ≤ header.memorySize ∧
    header.virtualAddress + header.memorySize < 2 ^ 64
  inside : ∀ header ∈ headers, header.type = kPtLoad →
    header.offset + header.fileSize ≤ bytes.length

/-- The file backs the address through the load. -/
def ElfProgramHeaderView.Backs (header : ElfProgramHeaderView) (va : Nat) : Prop :=
  header.type = kPtLoad ∧ header.virtualAddress ≤ va ∧
    va < header.virtualAddress + header.fileSize

section Layout
variable {bytes : List Byte} {headers : List ElfProgramHeaderView} {previous : Option (Nat × Nat)}

theorem checkedAddVa_eq_some {base offset total : Nat} (h : checkedAddVa base offset = some total)
    (hoffset : offset < 2 ^ 64) : total = base + offset ∧ base + offset < 2 ^ 64 := by
  rw [checkedAddVa] at h
  split at h
  · cases h
  · cases h
    exact ⟨rfl, by omega⟩

/-- A valid layout is in order, after the load before it. -/
theorem layout_of_validate (hwords : ∀ header ∈ headers, header.memorySize < 2 ^ 64)
    (h : validateElfLoadLayoutFrom previous headers = true) :
    (headers.Pairwise fun left right => left.type = kPtLoad → right.type = kPtLoad →
      left.virtualAddress + left.memorySize ≤ right.virtualAddress) ∧
    ∀ header ∈ headers, header.type = kPtLoad → header.fileSize ≤ header.memorySize ∧
      header.virtualAddress + header.memorySize < 2 ^ 64 ∧
      ∀ place ∈ previous, place.2 ≤ header.virtualAddress := by
  induction headers generalizing previous with
  | nil => exact ⟨.nil, fun _ hmem => absurd hmem not_mem_nil⟩
  | cons header headers ih =>
    have hrestWords : ∀ other ∈ headers, other.memorySize < 2 ^ 64 :=
      fun other hother => hwords other (mem_cons_of_mem _ hother)
    rw [validateElfLoadLayoutFrom] at h
    by_cases htype : header.type = kPtLoad
    · rw [if_neg (not_not.mpr htype)] at h
      cases hend : checkedAddVa header.virtualAddress header.memorySize with
      | none => rw [hend] at h; cases h
      | some loadEnd =>
        obtain ⟨rfl, hlt⟩ := checkedAddVa_eq_some hend (hwords header mem_cons_self)
        rw [hend] at h
        dsimp only at h
        split at h
        · cases h
        next hchecks =>
          rw [not_or, not_or] at hchecks
          obtain ⟨hsize, -, hafter⟩ := hchecks
          obtain ⟨hpairs, hsizes⟩ := ih hrestWords h
          have hprevious : ∀ place ∈ previous, place.2 ≤ header.virtualAddress := by
            intro place hplace
            obtain rfl := Option.mem_def.mp hplace
            simp only [Option.any_some, Bool.or_eq_true, decide_eq_true_eq, not_or] at hafter
            exact Nat.le_of_not_lt hafter.2
          refine ⟨.cons (fun other hother _ hload => ?_) hpairs, fun other hother hload => ?_⟩
          · exact (hsizes other hother hload).2.2 _ rfl
          · rcases mem_cons.mp hother with rfl | hother
            · exact ⟨Nat.le_of_not_lt hsize, hlt, hprevious⟩
            · obtain ⟨hfile, hmemory, hstart⟩ := hsizes other hother hload
              refine ⟨hfile, hmemory, fun place hplace => ?_⟩
              have hlast := hstart _ rfl
              have hbefore := hprevious place hplace
              dsimp only at hlast
              omega
    · rw [if_pos htype] at h
      obtain ⟨hpairs, hsizes⟩ := ih hrestWords h
      refine ⟨.cons (fun other _ hload => absurd hload htype) hpairs, fun other hother hload => ?_⟩
      rcases mem_cons.mp hother with rfl | hother
      · exact absurd hload htype
      · exact hsizes other hother hload

theorem xword_lt {offset : Nat} : xword bytes offset < 2 ^ 64 := by
  have hlow : word bytes offset < 2 ^ 32 := word_lt
  have hhigh : word bytes (offset + 4) < 2 ^ 32 := word_lt
  unfold xword
  omega

theorem of_guard {p : Prop} [Decidable p] {α : Type} {rest : Option α} {value : α}
    (h : (guard p : Option Unit).bind (fun _ => rest) = some value) : p ∧ rest = some value := by
  by_cases hp : p
  · exact ⟨hp, by rwa [show (guard p : Option Unit) = some () from if_pos hp] at h⟩
  · rw [show (guard p : Option Unit) = none from if_neg hp] at h
    cases h

/-- Parsed headers are read from the bytes, and pass the validation. -/
theorem parseElf64ProgramHeaders_eq_some (h : parseElf64ProgramHeaders bytes = some headers) :
    (∀ header ∈ headers, ∃ offset, header = programHeaderAt bytes offset) ∧
      validateElfLoadSegments bytes headers = true := by
  obtain ⟨-, h⟩ := of_guard h
  obtain ⟨-, h⟩ := of_guard h
  obtain ⟨-, h⟩ := of_guard h
  obtain ⟨parsed, hparsed, h⟩ := Option.bind_eq_some_iff.mp h
  obtain ⟨hvalid, h⟩ := of_guard h
  obtain rfl := Option.some.inj h
  refine ⟨fun header hheader => ?_, hvalid⟩
  obtain ⟨index, -, hindex⟩ := FallibleLoop.exists_of_mem_mapM hparsed hheader
  obtain ⟨offset, -, rfl⟩ := Option.map_eq_some_iff.mp hindex
  exact ⟨offset, rfl⟩

theorem ValidLoads.of_parse (h : parseElf64ProgramHeaders bytes = some headers) :
    ValidLoads bytes headers := by
  obtain ⟨hread, hvalid⟩ := parseElf64ProgramHeaders_eq_some h
  obtain ⟨hlayout, hbounds⟩ := Bool.and_eq_true_iff.mp hvalid
  have hwords : ∀ header ∈ headers, header.memorySize < 2 ^ 64 := by
    intro header hheader
    obtain ⟨offset, rfl⟩ := hread header hheader
    exact xword_lt
  obtain ⟨hpairs, hsizes⟩ := layout_of_validate hwords hlayout
  refine ⟨hpairs, fun header hheader hload => ?_, fun header hheader hload => ?_⟩
  · obtain ⟨hfile, hmemory, -⟩ := hsizes header hheader hload
    exact ⟨hfile, hmemory⟩
  · have hfits := all_eq_true.mp hbounds header hheader
    simp only [hload, beq_self_eq_true, Bool.true_and, Bool.not_not, rangeFits, Bool.and_eq_true,
      decide_eq_true_eq] at hfits
    omega

/-- At most one load backs an address. -/
theorem ValidLoads.backs_unique (h : ValidLoads bytes headers) {va left right : Nat}
    {first second : ElfProgramHeaderView} (hfirst : headers[left]? = some first)
    (hsecond : headers[right]? = some second) (hfirstBacks : first.Backs va)
    (hsecondBacks : second.Backs va) : left = right := by
  obtain ⟨hleft, rfl⟩ := List.getElem?_eq_some_iff.mp hfirst
  obtain ⟨hright, rfl⟩ := List.getElem?_eq_some_iff.mp hsecond
  have hpairs := pairwise_iff_getElem.mp h.ordered
  obtain ⟨hfirstLoad, hfirstLow, hfirstHigh⟩ := hfirstBacks
  obtain ⟨hsecondLoad, hsecondLow, hsecondHigh⟩ := hsecondBacks
  have hfirstSize := (h.sizes _ (getElem_mem hleft) hfirstLoad).1
  have hsecondSize := (h.sizes _ (getElem_mem hright) hsecondLoad).1
  rcases Nat.lt_trichotomy left right with hlt | heq | hgt
  · have hafter := hpairs left right hleft hright hlt hfirstLoad hsecondLoad
    omega
  · exact heq
  · have hafter := hpairs right left hright hleft hgt hsecondLoad hfirstLoad
    omega

/-- The headers before and after the load that backs an address do not. -/
theorem ValidLoads.split (h : ValidLoads bytes headers) {header : ElfProgramHeaderView} {va : Nat}
    (hheader : header ∈ headers) (hbacks : header.Backs va) :
    ∃ before after, headers = before ++ header :: after ∧
      (∀ other ∈ before, ¬other.Backs va) ∧ ∀ other ∈ after, ¬other.Backs va := by
  obtain ⟨before, after, rfl⟩ := append_of_mem hheader
  refine ⟨before, after, rfl, fun other hother hbacked => ?_, fun other hother hbacked => ?_⟩
  · obtain ⟨index, hindex, rfl⟩ := mem_iff_getElem.mp hother
    have hsame : index = before.length := h.backs_unique
      (by rw [List.getElem?_append_left hindex, List.getElem?_eq_getElem hindex])
      (by simp) hbacked hbacks
    omega
  · obtain ⟨index, hindex, rfl⟩ := mem_iff_getElem.mp hother
    have hsame : before.length + (index + 1) = before.length := h.backs_unique
      (by simp [hindex]) (by simp) hbacked hbacks
    omega

end Layout

/-! ## The loops over the headers -/

/-- A loop that ignores some headers goes from before them to behind them. -/
theorem passes_over {β : Type} (loop : List ElfProgramHeaderView → β)
    {ignored : ElfProgramHeaderView → Prop}
    (hloop : ∀ header rest, ignored header → loop (header :: rest) = loop rest)
    {before : List ElfProgramHeaderView} (rest : List ElfProgramHeaderView)
    (hbefore : ∀ header ∈ before, ignored header) : loop (before ++ rest) = loop rest := by
  induction before with
  | nil => rfl
  | cons header before ih =>
    rw [cons_append, hloop header _ (hbefore header mem_cons_self)]
    exact ih fun other hother => hbefore other (mem_cons_of_mem _ hother)

section Loops
variable {bytes : List Byte} {headers : List ElfProgramHeaderView} {header : ElfProgramHeaderView}
  {va size : Nat}

/-- A header that does not back the address is no load, or starts behind it, or ends before. -/
theorem not_backs_iff : ¬header.Backs va ↔
    (header.type ≠ kPtLoad ∨ va < header.virtualAddress) ∨
      va - header.virtualAddress ≥ header.fileSize := by
  unfold Backs
  omega

theorem elfVaToFileOffsetFrom_ignores (result : Option Nat) (rest : List ElfProgramHeaderView)
    (h : ¬header.Backs va) :
    elfVaToFileOffsetFrom va size (header :: rest) result =
      elfVaToFileOffsetFrom va size rest result := by
  rw [elfVaToFileOffsetFrom]
  rcases not_backs_iff.mp h with hbefore | hbehind
  · rw [if_pos hbefore]
  · split
    · rfl
    · exact if_pos (Or.inl hbehind)

theorem fileReadableBytes_ignores (rest : List ElfProgramHeaderView) (h : ¬header.Backs va) :
    fileReadableBytes bytes (header :: rest) va = fileReadableBytes bytes rest va := by
  rw [fileReadableBytes]
  rcases not_backs_iff.mp h with hbefore | hbehind
  · rw [if_pos hbefore]
  · split
    · rfl
    · exact if_pos (Or.inl hbehind)

theorem fileBackedReadableBytesFrom_ignores (remaining fileOffset : Option Nat)
    (rest : List ElfProgramHeaderView) (h : ¬header.Backs va) :
    fileBackedReadableBytesFrom va (header :: rest) remaining fileOffset =
      fileBackedReadableBytesFrom va rest remaining fileOffset := by
  rw [fileBackedReadableBytesFrom]
  rcases not_backs_iff.mp h with hbefore | hbehind
  · rw [if_pos hbefore]
  · split
    · rfl
    · exact if_pos (Or.inl hbehind)

/-- Without a load that backs the address the loops end with what they have. -/
theorem elfVaToFileOffsetFrom_unbacked (result : Option Nat)
    (h : ∀ other ∈ headers, ¬other.Backs va) :
    elfVaToFileOffsetFrom va size headers result = result := by
  have hend : elfVaToFileOffsetFrom va size (headers ++ []) result =
      elfVaToFileOffsetFrom va size [] result :=
    passes_over (fun rest => elfVaToFileOffsetFrom va size rest result)
      (fun _ rest => elfVaToFileOffsetFrom_ignores result rest) [] h
  rwa [append_nil] at hend

theorem fileReadableBytes_unbacked (h : ∀ other ∈ headers, ¬other.Backs va) :
    fileReadableBytes bytes headers va = none := by
  have hend : fileReadableBytes bytes (headers ++ []) va = fileReadableBytes bytes [] va :=
    passes_over (fun rest => fileReadableBytes bytes rest va)
      (fun _ rest => fileReadableBytes_ignores rest) [] h
  rwa [append_nil] at hend

theorem fileBackedReadableBytesFrom_unbacked (remaining fileOffset : Option Nat)
    (h : ∀ other ∈ headers, ¬other.Backs va) :
    fileBackedReadableBytesFrom va headers remaining fileOffset = remaining := by
  have hend : fileBackedReadableBytesFrom va (headers ++ []) remaining fileOffset =
      fileBackedReadableBytesFrom va [] remaining fileOffset :=
    passes_over (fun rest => fileBackedReadableBytesFrom va rest remaining fileOffset)
      (fun _ rest => fileBackedReadableBytesFrom_ignores remaining fileOffset rest) [] h
  rwa [append_nil] at hend

/-- The bytes from an address to the end of the load's part of the file. -/
def ElfProgramHeaderView.fileRest (header : ElfProgramHeaderView) (va : Nat) : Nat :=
  header.fileSize - (va - header.virtualAddress)

/-- The place of an address in the file. -/
def ElfProgramHeaderView.fileOffset (header : ElfProgramHeaderView) (va : Nat) : Nat :=
  header.offset + (va - header.virtualAddress)

variable (h : ValidLoads bytes headers)
include h

/-- The offset of a range is that of the load that backs its start, if the load reaches to its
end. -/
theorem ValidLoads.elfVaToFileOffset_eq
    (hbytes : bytes.length < 2 ^ 64) (hheader : header ∈ headers) (hbacks : header.Backs va)
    (hsize : size ≠ 0) : elfVaToFileOffset headers va size =
      if size ≤ header.fileRest va then some (header.fileOffset va) else none := by
  obtain ⟨before, after, rfl, hbefore, hafter⟩ := h.split hheader hbacks
  obtain ⟨hload, hlow, hhigh⟩ := hbacks
  have hinside := h.inside header hheader hload
  have hreach : elfVaToFileOffsetFrom va size (before ++ header :: after) none =
      elfVaToFileOffsetFrom va size (header :: after) none :=
    passes_over (fun rest => elfVaToFileOffsetFrom va size rest none)
      (fun _ rest => elfVaToFileOffsetFrom_ignores none rest) _ hbefore
  have hhere : ¬(header.type ≠ kPtLoad ∨ va < header.virtualAddress) := by omega
  rw [elfVaToFileOffset, if_neg hsize, hreach, elfVaToFileOffsetFrom, if_neg hhere]
  dsimp only
  by_cases hfits : size ≤ header.fileRest va
  · have hchecks : ¬(va - header.virtualAddress ≥ header.fileSize ∨
        size > header.fileSize - (va - header.virtualAddress) ∨
        header.offset > 2 ^ 64 - 1 - (va - header.virtualAddress)) := by
      unfold fileRest at hfits
      omega
    rw [if_neg hchecks, if_pos hfits, if_neg (by simp)]
    exact elfVaToFileOffsetFrom_unbacked _ hafter
  · have hchecks : va - header.virtualAddress ≥ header.fileSize ∨
        size > header.fileSize - (va - header.virtualAddress) ∨
        header.offset > 2 ^ 64 - 1 - (va - header.virtualAddress) :=
      Or.inr (Or.inl (Nat.lt_of_not_le hfits))
    rw [if_pos hchecks, if_neg hfits]
    exact elfVaToFileOffsetFrom_unbacked _ hafter

theorem ValidLoads.fileReadableBytes_eq (hheader : header ∈ headers) (hbacks : header.Backs va) :
    fileReadableBytes bytes headers va = some (header.fileRest va) := by
  obtain ⟨before, after, rfl, hbefore, -⟩ := h.split hheader hbacks
  obtain ⟨hload, hlow, hhigh⟩ := hbacks
  have hinside := h.inside header hheader hload
  have hreach : fileReadableBytes bytes (before ++ header :: after) va =
      fileReadableBytes bytes (header :: after) va :=
    passes_over (fun rest => fileReadableBytes bytes rest va)
      (fun _ rest => fileReadableBytes_ignores rest) _ hbefore
  have hhere : ¬(header.type ≠ kPtLoad ∨ va < header.virtualAddress) := by omega
  have hdelta : ¬(va - header.virtualAddress ≥ header.fileSize ∨ header.offset > bytes.length) := by
    omega
  have havailable : ¬va - header.virtualAddress ≥ bytes.length - header.offset := by omega
  rw [hreach, fileReadableBytes, if_neg hhere]
  dsimp only
  rw [if_neg hdelta, if_neg havailable, fileRest, Nat.min_eq_left (by omega)]

theorem ValidLoads.fileBackedReadableBytes_eq
    (hbytes : bytes.length < 2 ^ 64) (hheader : header ∈ headers) (hbacks : header.Backs va) :
    fileBackedReadableBytes headers va =
      if header.readable then some (header.fileRest va) else none := by
  obtain ⟨before, after, rfl, hbefore, hafter⟩ := h.split hheader hbacks
  obtain ⟨hload, hlow, hhigh⟩ := hbacks
  have hinside := h.inside header hheader hload
  have hreach : fileBackedReadableBytesFrom va (before ++ header :: after) none none =
      fileBackedReadableBytesFrom va (header :: after) none none :=
    passes_over (fun rest => fileBackedReadableBytesFrom va rest none none)
      (fun _ rest => fileBackedReadableBytesFrom_ignores none none rest) _ hbefore
  have hhere : ¬(header.type ≠ kPtLoad ∨ va < header.virtualAddress) := by omega
  have hchecks : ¬(va - header.virtualAddress ≥ header.fileSize ∨
      header.offset > 2 ^ 64 - 1 - (va - header.virtualAddress)) := by omega
  rw [fileBackedReadableBytes, hreach, fileBackedReadableBytesFrom, if_neg hhere]
  dsimp only
  rw [if_neg hchecks]
  cases hreadable : header.readable with
  | false => rfl
  | true =>
    rw [if_neg (by simp), if_pos rfl]
    exact fileBackedReadableBytesFrom_unbacked _ _ hafter

end Loops

/-! ## Agreement -/

/-- The memory has the file's part of every load at its address, as far as the address space goes. -/
def HoldsLoads (memory : Nat → Byte) (loadBias : Nat) (headers : List ElfProgramHeaderView)
    (bytes : List Byte) : Prop :=
  ∀ header ∈ headers, header.type = kPtLoad → ∀ index < header.fileSize,
    loadBias + header.virtualAddress + index < 2 ^ 64 →
      bytes[header.offset + index]? = some (memory (loadBias + header.virtualAddress + index))

section Agreement
variable {bytes : List Byte} {headers : List ElfProgramHeaderView} {header : ElfProgramHeaderView}
  {va size loadBias : Nat} {memory : Nat → Byte}

theorem loadedCopy_isSome_iff (hsize : 0 < size) :
    (loadedCopy memory loadBias va size).isSome = true ↔ loadBias + va + size < 2 ^ 64 := by
  rw [loadedCopy]
  split
  · simp only [Option.isSome_none, Bool.false_eq_true, false_iff]
    omega
  · dsimp only
    split
    · simp only [Option.isSome_none, Bool.false_eq_true, false_iff]
      omega
    · simp only [Option.isSome_some, true_iff]
      omega

theorem loadedCopy_eq_some {found : List Byte} (hsize : 0 < size)
    (h : loadedCopy memory loadBias va size = some found) :
    loadBias + va + size < 2 ^ 64 ∧ found = copyFrom memory (loadBias + va) size := by
  have hspace := (loadedCopy_isSome_iff hsize).mp (Option.isSome_of_mem h)
  rw [loadedCopy, if_neg (by omega)] at h
  dsimp only at h
  rw [if_neg (by omega)] at h
  exact ⟨hspace, (Option.some.inj h).symm⟩

/-- The offset of a range that is not empty is that of the load whose part of the file has the
range. -/
theorem ValidLoads.elfVaToFileOffset_eq_some_iff (h : ValidLoads bytes headers)
    (hbytes : bytes.length < 2 ^ 64) {offset : Nat} :
    elfVaToFileOffset headers va size = some offset ↔ size ≠ 0 ∧
      ∃ header ∈ headers, header.Backs va ∧ size ≤ header.fileRest va ∧
        offset = header.fileOffset va := by
  by_cases hsize : size = 0
  · rw [elfVaToFileOffset, if_pos hsize]
    exact ⟨nofun, fun hzero => absurd hsize hzero.1⟩
  by_cases hbacked : ∃ header ∈ headers, header.Backs va
  · obtain ⟨header, hheader, hbacks⟩ := hbacked
    rw [h.elfVaToFileOffset_eq hbytes hheader hbacks hsize]
    constructor
    · intro hoffset
      split at hoffset
      next hfits =>
        exact ⟨hsize, header, hheader, hbacks, hfits, (Option.some.inj hoffset).symm⟩
      · cases hoffset
    · rintro ⟨-, other, hother, hotherBacks, hfits, rfl⟩
      obtain ⟨left, hleft, rfl⟩ := mem_iff_getElem.mp hheader
      obtain ⟨right, hright, rfl⟩ := mem_iff_getElem.mp hother
      obtain rfl : left = right := h.backs_unique (List.getElem?_eq_getElem hleft)
        (List.getElem?_eq_getElem hright) hbacks hotherBacks
      rw [if_pos hfits]
  · rw [elfVaToFileOffset, if_neg hsize, elfVaToFileOffsetFrom_unbacked none
      fun other hother hbacks => hbacked ⟨other, hother, hbacks⟩]
    refine ⟨nofun, ?_⟩
    rintro ⟨-, header, hheader, hbacks, -⟩
    exact absurd ⟨header, hheader, hbacks⟩ hbacked

/-- Without a load that backs its start, no range is readable from the file. -/
theorem unbacked_unreadable (bytes : List Byte) (size : Nat)
    (hbacked : ¬∃ header ∈ headers, header.Backs va) :
    elfVaToFileOffset headers va size = none ∧ fileReadableBytes bytes headers va = none ∧
      fileBackedReadableBytes headers va = none := by
  have hnone : ∀ other ∈ headers, ¬other.Backs va :=
    fun other hother hbacks => hbacked ⟨other, hother, hbacks⟩
  refine ⟨?_, fileReadableBytes_unbacked hnone, fileBackedReadableBytesFrom_unbacked _ _ hnone⟩
  rw [elfVaToFileOffset]
  split
  · rfl
  · exact elfVaToFileOffsetFrom_unbacked none hnone

/-- The file reader reads a range that the load of its start has. -/
theorem ValidLoads.fileRead_eq (h : ValidLoads bytes headers) (hbytes : bytes.length < 2 ^ 64)
    (hheader : header ∈ headers) (hbacks : header.Backs va) (hsize : 0 < size) :
    fileRead bytes headers va size =
      if size ≤ header.fileRest va then some ((bytes.drop (header.fileOffset va)).take size)
      else none := by
  have hinside := h.inside header hheader hbacks.1
  have hlow := hbacks.2.1
  have hhigh := hbacks.2.2
  rw [fileRead, if_neg (Nat.ne_of_gt hsize),
    h.elfVaToFileOffset_eq hbytes hheader hbacks (Nat.ne_of_gt hsize)]
  by_cases hfits : size ≤ header.fileRest va
  · have hroom : ¬(header.fileOffset va > bytes.length ∨
        size > bytes.length - header.fileOffset va) := by
      unfold fileRest at hfits
      unfold fileOffset
      omega
    rw [if_pos hfits]
    dsimp only
    rw [if_neg hroom, if_pos hfits]
  · rw [if_neg hfits, if_neg hfits]

/-- The memory of a range that a load has from the file is that part of the file. -/
theorem HoldsLoads.copyFrom_eq (h : HoldsLoads memory loadBias headers bytes)
    (hheader : header ∈ headers) (hbacks : header.Backs va) (hfits : size ≤ header.fileRest va)
    (hspace : loadBias + va + size < 2 ^ 64) :
    copyFrom memory (loadBias + va) size = (bytes.drop (header.fileOffset va)).take size := by
  obtain ⟨hload, hlow, hhigh⟩ := hbacks
  unfold fileRest at hfits
  apply ext_getElem?
  intro index
  rw [List.getElem?_take]
  split
  next hindex =>
    have hbyte := h header hheader hload (va - header.virtualAddress + index) (by omega) (by omega)
    have hoffset : header.fileOffset va + index =
        header.offset + (va - header.virtualAddress + index) := by
      unfold fileOffset
      omega
    have haddress : loadBias + header.virtualAddress + (va - header.virtualAddress + index) =
        loadBias + va + index := by omega
    rw [List.getElem?_drop, hoffset, hbyte, haddress, copyFrom]
    simp [hindex]
  next hindex =>
    rw [List.getElem?_eq_none]
    rw [copyFrom, length_map, length_range]
    exact Nat.le_of_not_lt hindex

/-- A read of a range that is not empty succeeds exactly when the readable bytes reach to its end
and the range is in the space. -/
def ReadsReadable (reader : ElfVaReader) (inSpace : Nat → Nat → Prop) : Prop :=
  ∀ va size, 0 < size → ((reader.read va size).isSome = true ↔
    (∃ remaining, reader.readableBytes va = some remaining ∧ size ≤ remaining) ∧ inSpace va size)

theorem loadedElfReader_readsReadable :
    ReadsReadable (loadedElfReader memory loadBias headers)
      fun va size => loadBias + va + size < 2 ^ 64 := by
  intro va size hsize
  change (loadedRead memory loadBias headers va size).isSome = true ↔
    (∃ remaining, loadedReadableBytes headers va = some remaining ∧ size ≤ remaining) ∧ _
  rw [loadedRead, if_neg (Nat.ne_of_gt hsize)]
  cases loadedReadableBytes headers va with
  | none => simp
  | some remaining =>
    dsimp only
    by_cases hfits : size ≤ remaining
    · rw [if_neg (Nat.not_lt.mpr hfits), loadedCopy_isSome_iff hsize]
      simp [hfits]
    · rw [if_pos (Nat.lt_of_not_le hfits)]
      simp [hfits]

theorem ValidLoads.fileBacked_readsReadable (h : ValidLoads bytes headers)
    (hbytes : bytes.length < 2 ^ 64) :
    ReadsReadable (fileBackedLoadedElfReader memory loadBias headers)
      fun va size => loadBias + va + size < 2 ^ 64 := by
  intro va size hsize
  change (fileBackedRead memory loadBias headers va size).isSome = true ↔
    (∃ remaining, fileBackedReadableBytes headers va = some remaining ∧ size ≤ remaining) ∧ _
  rw [fileBackedRead, if_neg (Nat.ne_of_gt hsize)]
  by_cases hbacked : ∃ header ∈ headers, header.Backs va
  · obtain ⟨header, hheader, hbacks⟩ := hbacked
    rw [h.fileBackedReadableBytes_eq hbytes hheader hbacks,
      h.elfVaToFileOffset_eq hbytes hheader hbacks (Nat.ne_of_gt hsize)]
    cases header.readable with
    | false => simp
    | true =>
      rw [if_pos rfl]
      by_cases hfits : size ≤ header.fileRest va
      · rw [if_pos hfits]
        dsimp only
        rw [if_neg (Nat.not_lt.mpr hfits), loadedCopy_isSome_iff hsize]
        simp [hfits]
      · rw [if_neg hfits]
        simp [hfits]
  · obtain ⟨hoffset, -, hreadable⟩ := unbacked_unreadable bytes size hbacked
    rw [hoffset, hreadable]
    simp

theorem ValidLoads.file_readsReadable (h : ValidLoads bytes headers)
    (hbytes : bytes.length < 2 ^ 64) :
    ReadsReadable (fileElfReader bytes headers) fun _ _ => True := by
  intro va size hsize
  change (fileRead bytes headers va size).isSome = true ↔
    (∃ remaining, fileReadableBytes bytes headers va = some remaining ∧ size ≤ remaining) ∧ True
  by_cases hbacked : ∃ header ∈ headers, header.Backs va
  · obtain ⟨header, hheader, hbacks⟩ := hbacked
    rw [h.fileRead_eq hbytes hheader hbacks hsize, h.fileReadableBytes_eq hheader hbacks]
    by_cases hfits : size ≤ header.fileRest va <;> simp [hfits]
  · obtain ⟨hoffset, hreadable, -⟩ := unbacked_unreadable bytes size hbacked
    rw [fileRead, if_neg (Nat.ne_of_gt hsize), hoffset, hreadable]
    simp

/-- What the loaded image has from the file is read from the file, with the same bytes. -/
theorem ValidLoads.fileBackedRead_eq_some (h : ValidLoads bytes headers)
    (hbytes : bytes.length < 2 ^ 64) (hholds : HoldsLoads memory loadBias headers bytes)
    {found : List Byte} (hread : fileBackedRead memory loadBias headers va size = some found) :
    fileRead bytes headers va size = some found := by
  rw [fileBackedRead] at hread
  split at hread
  · cases hread
  next hzero =>
    have hsize : 0 < size := Nat.pos_of_ne_zero hzero
    split at hread
    next remaining offset hremaining hoffset =>
      obtain ⟨-, header, hheader, hbacks, hfits, -⟩ :=
        (h.elfVaToFileOffset_eq_some_iff hbytes).mp hoffset
      split at hread
      · cases hread
      · obtain ⟨hspace, rfl⟩ := loadedCopy_eq_some hsize hread
        rw [h.fileRead_eq hbytes hheader hbacks hsize, if_pos hfits,
          hholds.copyFrom_eq hheader hbacks hfits hspace]
    · cases hread

/-- The file view and the loaded view of a parsed image agree: an address is backed by one load at
most, and so has one offset; what the loaded image has from the file is read from the file alike;
and every reader reads what it says is readable. -/
theorem file_and_loaded_views_agree (hparse : parseElf64ProgramHeaders bytes = some headers)
    (hbytes : bytes.length < 2 ^ 64) (hholds : HoldsLoads memory loadBias headers bytes) :
    (∀ va left right : Nat, ∀ first second : ElfProgramHeaderView, headers[left]? = some first →
      headers[right]? = some second → first.Backs va → second.Backs va → left = right) ∧
    (∀ va size offset, elfVaToFileOffset headers va size = some offset ↔ size ≠ 0 ∧
      ∃ header ∈ headers, header.Backs va ∧ size ≤ header.fileRest va ∧
        offset = header.fileOffset va) ∧
    (∀ va size found,
      (fileBackedLoadedElfReader memory loadBias headers).read va size = some found →
      (fileElfReader bytes headers).read va size = some found) ∧
    ReadsReadable (loadedElfReader memory loadBias headers)
      (fun va size => loadBias + va + size < 2 ^ 64) ∧
    ReadsReadable (fileBackedLoadedElfReader memory loadBias headers)
      (fun va size => loadBias + va + size < 2 ^ 64) ∧
    ReadsReadable (fileElfReader bytes headers) fun _ _ => True := by
  have hvalid := ValidLoads.of_parse hparse
  refine ⟨?_, ?_, ?_, loadedElfReader_readsReadable, hvalid.fileBacked_readsReadable hbytes,
    hvalid.file_readsReadable hbytes⟩
  · intro va left right first second hfirst hsecond hfirstBacks hsecondBacks
    exact hvalid.backs_unique hfirst hsecond hfirstBacks hsecondBacks
  · intro va size offset
    exact hvalid.elfVaToFileOffset_eq_some_iff hbytes
  · intro va size found hread
    exact hvalid.fileBackedRead_eq_some hbytes hholds hread

end Agreement

/-- The header of a shared object and one program header, a load of both at `0x2000`. -/
def oneLoadBytes : List Byte := [
    127, 69, 76, 70, 2, 1, 1, 0, 0, 0, 0, 0, 0, 0, 0, 0, 3, 0, 183, 0, 1, 0, 0, 0, 0, 0, 0, 0,
    0, 0, 0, 0, 64, 0, 0, 0, 0, 0, 0, 0, 0, 0, 0, 0, 0, 0, 0, 0, 0, 0, 0, 0, 64, 0, 56, 0, 1,
    0, 0, 0, 0, 0, 0, 0, 1, 0, 0, 0, 5, 0, 0, 0, 0, 0, 0, 0, 0, 0, 0, 0, 0, 32, 0, 0, 0, 0, 0,
    0, 0, 0, 0, 0, 0, 0, 0, 0, 120, 0, 0, 0, 0, 0, 0, 0, 128, 0, 0, 0, 0, 0, 0, 0, 0, 16, 0, 0,
    0, 0, 0, 0]

def oneLoad : ElfProgramHeaderView := ⟨1, 5, 0, 0x2000, 120, 128, 0x1000⟩

theorem oneLoad_parse : parseElf64ProgramHeaders oneLoadBytes = some [oneLoad] := by decide +kernel

/-- An image that is loaded `0x10000` up, and nothing else. -/
def oneLoadMemory (address : Nat) : Byte := oneLoadBytes.getD (address - 0x12000) 0

theorem oneLoad_holds : HoldsLoads oneLoadMemory 0x10000 [oneLoad] oneLoadBytes := by
  intro header hheader _ index hindex _
  obtain rfl := mem_singleton.mp hheader
  have hlt : index < oneLoadBytes.length := hindex
  have hoffset : 0x10000 + oneLoad.virtualAddress + index - 0x12000 = index := by
    change 0x10000 + 0x2000 + index - 0x12000 = index
    omega
  have hplace : oneLoad.offset + index = index := Nat.zero_add index
  rw [oneLoadMemory, hoffset, hplace, getD_eq_getElem?_getD, List.getElem?_eq_getElem hlt]
  rfl

theorem file_and_loaded_views_agree_oneLoad : ∃ found,
    (fileBackedLoadedElfReader oneLoadMemory 0x10000 [oneLoad]).read 0x2010 4 = some found ∧
      (fileElfReader oneLoadBytes [oneLoad]).read 0x2010 4 = some found := by
  refine ⟨_, rfl, ?_⟩
  exact (file_and_loaded_views_agree oneLoad_parse (by decide) oneLoad_holds).2.2.1 0x2010 4 _ rfl

end DartPlant
