import DartPlant.Elf.HashTables
import DartPlant.Elf.LookupSafety
import DartPlant.Elf.ReaderAgreement

/-! # Lookup in hostile tables

Whatever the reader, the view and the name are, both lookups on machine words end after a bounded
number of visits, wrap nowhere, read only what the reader admits, and find only what is there
(`hostile_lookup_bounded_and_sound`).  Every reader of the program admits only readable bytes.
-/

namespace DartPlant
open NoteFormat Metered

/-- The reader admits only ranges that end within its readable bytes. -/
def ElfVaReader.Bounded (reader : ElfVaReader) : Prop :=
  ∀ va size, (reader.read va size).isSome = true →
    ∃ remaining, reader.readableBytes va = some remaining ∧ size ≤ remaining

/-- The chain entries that a run visited. -/
def visitsOf {α : Type} (run : LookupRun α) : Nat := (run.events.map LookupEvent.visits).sum

section Readers
variable {bytes : List Byte} {headers : List ElfProgramHeaderView} {loadBias : Nat}
  {memory : Nat → Byte} {reader : ElfVaReader} {inSpace : Nat → Nat → Prop}

theorem ReadsReadable.bounded (h : ReadsReadable reader inSpace)
    (hempty : ∀ va, reader.read va 0 = none) : reader.Bounded := by
  intro va size hread
  rcases Nat.eq_zero_or_pos size with rfl | hsize
  · rw [hempty va] at hread
    cases hread
  · exact ((h va size hsize).mp hread).1

theorem loadedElfReader_bounded : (loadedElfReader memory loadBias headers).Bounded :=
  loadedElfReader_readsReadable.bounded fun _ => rfl

theorem ValidLoads.fileBacked_bounded (h : ValidLoads bytes headers)
    (hbytes : bytes.length < 2 ^ 64) :
    (fileBackedLoadedElfReader memory loadBias headers).Bounded :=
  (h.fileBacked_readsReadable hbytes).bounded fun _ => rfl

theorem ValidLoads.file_bounded (h : ValidLoads bytes headers) (hbytes : bytes.length < 2 ^ 64) :
    (fileElfReader bytes headers).Bounded :=
  (h.file_readsReadable hbytes).bounded fun _ => rfl

end Readers

/-- Whatever the tables say, the lookups on machine words do what the lookups on numbers do, visit
no more chain entries than the table says there are, respectively than are readable, compute
nothing that wraps, and read only what the reader admits.  What they find is an entry of the symbol
table that has the name, is defined and is not zero. -/
theorem hostile_lookup_bounded_and_sound {reader : ElfVaReader} {view : ElfDynamicView}
    (hwords : LookupWords reader view) (name : List Byte) :
    visitsOf (LookupMachine.findSysvSymbol reader view name) ≤ sysvChainCount reader view ∧
    visitsOf (LookupMachine.findGnuSymbol reader view name) ≤ gnuChainLength reader view ∧
    orMalformed (LookupMachine.findSysvSymbol reader view name).result =
      findSysvSymbol reader view name ∧
    orMalformed (LookupMachine.findGnuSymbol reader view name).result =
      findGnuSymbol reader view name ∧
    (∀ event ∈ (LookupMachine.findSysvSymbol reader view name).events ++
        (LookupMachine.findGnuSymbol reader view name).events,
      match event with
      | .computed width exact => 0 ≤ exact ∧ exact < 2 ^ width
      | .read va size => (reader.read va size).isSome = true ∧ (reader.Bounded →
        ∃ remaining, reader.readableBytes va = some remaining ∧ size ≤ remaining)
      | .visited => True) ∧
    ∀ symbol, findSysvSymbol reader view name = .found symbol ∨
      findGnuSymbol reader view name = .found symbol → BackedSymbol reader view name symbol := by
  have hsysv := findSysvSymbol_meets hwords name
  have hgnu := findGnuSymbol_meets hwords name
  refine ⟨hsysv.cost, hgnu.cost, hsysv.result, hgnu.result, ?_, ?_⟩
  · intro event hevent
    have hfine : event.Fine reader := by
      rcases List.mem_append.mp hevent with hevent | hevent
      · exact hsysv.fine event hevent
      · exact hgnu.fine event hevent
    cases event with
    | computed width exact => exact hfine
    | read va size => exact ⟨hfine, fun hbounded => hbounded va size hfine⟩
    | visited => trivial
  · rintro symbol (hfound | hfound)
    · exact findSysvSymbol_sound hfound
    · exact findGnuSymbol_sound hfound

theorem fileReadableBytes_le {bytes : List Byte} {headers : List ElfProgramHeaderView}
    {va remaining : Nat} (h : fileReadableBytes bytes headers va = some remaining) :
    remaining ≤ bytes.length := by
  induction headers with
  | nil => cases h
  | cons header headers ih =>
    rw [fileReadableBytes] at h
    split at h
    · exact ih h
    dsimp only at h
    split at h
    · exact ih h
    split at h
    · exact ih h
    · obtain rfl := Option.some.inj h
      omega

theorem oneSymbol_words : LookupWords oneSymbolReader oneSymbolView where
  strtabVa := by decide
  strtabSize := by decide
  readableBytes va remaining h := Nat.lt_of_le_of_lt (fileReadableBytes_le h) (by decide)

theorem hostile_lookup_bounded_and_sound_oneSymbol :
    visitsOf (LookupMachine.findGnuSymbol oneSymbolReader oneSymbolView [0x66]) ≤ 1 ∧
      ∃ symbol, findGnuSymbol oneSymbolReader oneSymbolView [0x66] = .found symbol ∧
        BackedSymbol oneSymbolReader oneSymbolView [0x66] symbol := by
  have h := hostile_lookup_bounded_and_sound oneSymbol_words [0x66]
  have hfound : findGnuSymbol oneSymbolReader oneSymbolView [0x66] =
      .found ⟨0x2000, 4, 0x12, 0, 7⟩ := by decide +kernel
  exact ⟨h.2.1, _, hfound, h.2.2.2.2.2 _ (Or.inr hfound)⟩

end DartPlant
