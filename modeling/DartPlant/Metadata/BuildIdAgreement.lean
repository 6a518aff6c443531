import DartPlant.Metadata.BuildIdNotes

/-! # When the three readings of the build id agree

On segments that are well formed each reading is a choice among the same notes: the runtime wants
the strict ones to agree, the indexer takes the first loose one and the sidecar builder the last.
`build_ids_agree` says on which images these are one.
-/

namespace DartPlant
open NoteFormat Consensus Note List

/-- A note the runtime takes. -/
def NoteFormat.Note.isBuildId (note : Note) : Bool :=
  note.type == kGnuBuildIdType && note.name == gnuName && note.descriptor != []

/-- A note the tools take. -/
def NoteFormat.Note.namesGnu (note : Note) : Bool :=
  note.type == kGnuBuildIdType && note.name.take 3 == gnuPrefix

def NoteFormat.Note.buildId (note : Note) : String := bytesToHex note.descriptor

theorem namesGnu_of_isBuildId {note : Note} (h : note.isBuildId = true) :
    note.namesGnu = true := by
  simp only [isBuildId, Bool.and_eq_true, beq_iff_eq] at h
  simp only [namesGnu, h.1.1, h.1.2, BEq.rfl, Bool.true_and]
  rfl

/-! ## The runtime's reading -/

section Runtime
variable {notes : List Byte} {cursor : Nat} {buildId : Option String}

/-- What the loop returns at the end of the notes. -/
def settledBuildId : Option String → ElfBuildIdResult
  | some id => .found id
  | none => .notFound

theorem alignUp4_word {bytes : List Byte} {offset : Nat} :
    alignUp4 (word bytes offset) = some (padded (word bytes offset)) := by
  have hword : word bytes offset < 2 ^ 32 := word_lt
  unfold alignUp4
  rw [if_neg (by omega)]

theorem parse_short (h : (notes.drop cursor).length < headerSize) :
    parseGnuBuildIdNotesFrom notes cursor buildId =
      if (notes.drop cursor).all fun byte => byte == 0 then settledBuildId buildId
      else .malformed := by
  rw [length_drop, headerSize] at h
  rw [parseGnuBuildIdNotesFrom.eq_def]
  split
  · rfl
  next hend =>
    have hnil : notes.drop cursor = [] := drop_eq_nil_of_le (by omega)
    rw [hnil]
    rfl

/-- The runtime's test of a note, in the bytes it looks at. -/
theorem isBuildId_iff {bytes : List Byte} (h : headSize bytes ≤ bytes.length) :
    (headNote bytes).isBuildId = true ↔
      word bytes 8 = kGnuBuildIdType ∧ word bytes 0 = 4 ∧ word bytes 4 ≠ 0 ∧
        (bytes.drop headerSize).take 4 = gnuName := by
  obtain ⟨hname, hdescriptor⟩ := headNote_length h
  have hempty : (headNote bytes).descriptor = [] ↔ word bytes 4 = 0 := by
    rw [← length_eq_zero_iff, hdescriptor]
  have hgnu : (headNote bytes).name = gnuName ↔
      word bytes 0 = 4 ∧ (bytes.drop headerSize).take 4 = gnuName := by
    constructor
    · intro hsame
      have hfour : word bytes 0 = 4 := by
        rw [← hname, hsame]
        rfl
      refine ⟨hfour, ?_⟩
      rw [← hsame, headNote, hfour]
    · rintro ⟨hfour, hsame⟩
      rw [headNote, hfour]
      exact hsame
  simp only [isBuildId, Bool.and_eq_true, beq_iff_eq, bne_iff_ne, ne_eq, hempty, hgnu]
  constructor
  · rintro ⟨⟨htype, hfour, hsame⟩, hdesc⟩
    exact ⟨htype, hfour, hdesc, hsame⟩
  · rintro ⟨htype, hfour, hdesc, hsame⟩
    exact ⟨⟨htype, hfour, hsame⟩, hdesc⟩

/-- Past the header, in terms of the bytes that are left. -/
theorem parse_header (h : headerSize ≤ (notes.drop cursor).length) :
    parseGnuBuildIdNotesFrom notes cursor buildId =
      if (notes.drop cursor).length < headSize (notes.drop cursor) then .malformed
      else if (headNote (notes.drop cursor)).isBuildId then
        if buildId.isSome ∧ buildId ≠ some (headNote (notes.drop cursor)).buildId then .ambiguous
        else parseGnuBuildIdNotesFrom notes (cursor + headSize (notes.drop cursor))
          (some (headNote (notes.drop cursor)).buildId)
      else parseGnuBuildIdNotesFrom notes (cursor + headSize (notes.drop cursor)) buildId := by
  have hlength : (notes.drop cursor).length = notes.length - cursor := length_drop
  have hnamesz : word notes cursor = word (notes.drop cursor) 0 := by
    rw [word_drop, Nat.add_zero]
  have hdescsz : word notes (cursor + 4) = word (notes.drop cursor) 4 := word_drop.symm
  have htype : word notes (cursor + 8) = word (notes.drop cursor) 8 := word_drop.symm
  have hsize : headSize (notes.drop cursor) = 12 + padded (word (notes.drop cursor) 0) +
      padded (word (notes.drop cursor) 4) := rfl
  have hname := le_padded (word (notes.drop cursor) 0)
  have hdescriptor := le_padded (word (notes.drop cursor) 4)
  rw [headerSize] at h
  rw [parseGnuBuildIdNotesFrom.eq_def, if_pos (by omega), if_neg (by omega)]
  simp only [hnamesz, hdescsz, htype, alignUp4_word]
  by_cases htruncated : (notes.drop cursor).length < headSize (notes.drop cursor)
  · rw [if_pos htruncated]
    split
    · rfl
    · rw [if_pos (by omega)]
  · rw [if_neg htruncated, if_neg (by omega), if_neg (by omega)]
    have hname12 : notes.drop (cursor + 12) = (notes.drop cursor).drop headerSize := by
      rw [drop_drop, headerSize]
    have hrest : cursor + 12 + padded (word (notes.drop cursor) 0) +
        padded (word (notes.drop cursor) 4) = cursor + headSize (notes.drop cursor) := by omega
    have hcandidate : (notes.drop (cursor + 12 + padded (word (notes.drop cursor) 0))).take
        (word (notes.drop cursor) 4) = (headNote (notes.drop cursor)).descriptor := by
      simp only [headNote, drop_drop, headerSize, Nat.add_assoc]
    have hstrict := isBuildId_iff (Nat.le_of_not_lt htruncated)
    simp only [hname12, hrest, hcandidate]
    by_cases htaken : (headNote (notes.drop cursor)).isBuildId = true
    · rw [if_pos (hstrict.mp htaken), if_pos htaken]
      rfl
    · rw [if_neg fun htest => htaken (hstrict.mpr htest), if_neg htaken]

/-- What the runtime makes of reports that do or do not agree. -/
inductive Verdict (reports : List (Option String)) : ElfBuildIdResult → Prop
  | ambiguous (h : Disputed reports) : Verdict reports .ambiguous
  | found {id : String} (h : firstReport reports = some id) (hagree : ¬ Disputed reports) :
    Verdict reports (.found id)
  | notFound (h : firstReport reports = none) : Verdict reports .notFound

/-- The result is the verdict on the reports of well-formed notes; without such notes it is none. -/
def Reads : Option (List (Option String)) → ElfBuildIdResult → Prop
  | some reports, result => Verdict reports result
  | none, result => result = .malformed ∨ result = .ambiguous

/-- What a note says to the runtime. -/
def strictReport (note : Note) : Option String :=
  if note.isBuildId then some note.buildId else none

theorem reads_settled {reports : List (Option String)} (h : ¬ Disputed reports) :
    Verdict reports (settledBuildId (firstReport reports)) := by
  cases hfirst : firstReport reports with
  | none => exact .notFound hfirst
  | some id => exact .found hfirst h

theorem differs_isSome {first : Option String} {id : String} :
    first.isSome = true ∧ first ≠ some id ↔ differs first (some id) = true := by
  cases first with
  | none => exact iff_of_false (fun h => Bool.noConfusion h.1) Bool.noConfusion
  | some other => simp [differs]

/-- The loop gives the verdict on the reports it has seen and those of the notes that are left. -/
theorem parse_reads (notes : List Byte) (cursor : Nat) :
    ∀ seen : List (Option String), ¬ Disputed seen →
      Reads ((NoteFormat.notes (notes.drop cursor)).map fun rest => seen ++ rest.map strictReport)
        (parseGnuBuildIdNotesFrom notes cursor (firstReport seen)) := by
  induction cursor using cursor_induct notes with
  | short cursor hshort =>
    intro seen hagree
    rw [parse_short hshort, notes_short hshort]
    split
    · rw [Option.map_some, map_nil, append_nil]
      exact reads_settled hagree
    · exact Or.inl rfl
  | truncated cursor hheader htruncated =>
    intro seen _
    rw [parse_header hheader, if_pos htruncated, notes_truncated hheader htruncated]
    exact Or.inl rfl
  | note cursor hfits ih =>
    intro seen hagree
    have hheader : headerSize ≤ (notes.drop cursor).length :=
      Nat.le_trans headerSize_le_headSize hfits
    have hsplit : ∀ rest : List Note, seen ++ (headNote (notes.drop cursor) :: rest).map
        strictReport = (seen ++ [strictReport (headNote (notes.drop cursor))]) ++
          rest.map strictReport := by
      intro rest
      rw [map_cons, append_assoc, singleton_append]
    rw [parse_header hheader, if_neg (Nat.not_lt.mpr hfits), notes_cons hfits, Option.map_map,
      drop_drop]
    simp only [Function.comp_def, hsplit]
    cases htaken : (headNote (notes.drop cursor)).isBuildId with
    | false =>
      have hreport : strictReport (headNote (notes.drop cursor)) = none := by
        rw [strictReport, htaken]
        rfl
      rw [if_neg Bool.false_ne_true, hreport]
      have hfirst : firstReport (seen ++ [none]) = firstReport seen := by
        rw [firstReport_concat]
        cases firstReport seen <;> rfl
      have hstill : ¬ Disputed (seen ++ [none]) := by
        rw [disputed_concat]
        rintro (hdispute | hdiffers)
        · exact hagree hdispute
        · obtain ⟨-, right, -, hright, -⟩ := differs_iff.mp hdiffers
          cases hright
      have hrest := ih (seen ++ [none]) hstill
      rwa [hfirst] at hrest
    | true =>
      have hreport : strictReport (headNote (notes.drop cursor)) =
          some (headNote (notes.drop cursor)).buildId := by
        rw [strictReport, htaken]
        rfl
      rw [if_pos rfl, hreport]
      split
      next hdiffers =>
        have hdisputed : Disputed (seen ++ [some (headNote (notes.drop cursor)).buildId]) :=
          disputed_concat.mpr (Or.inr (differs_isSome.mp hdiffers))
        cases NoteFormat.notes (notes.drop (cursor + headSize (notes.drop cursor))) with
        | none => exact Or.inr rfl
        | some rest => exact .ambiguous (hdisputed.mono fun _ h => mem_append_left _ h)
      next hsame =>
        rw [differs_isSome] at hsame
        have hstill : ¬ Disputed (seen ++ [some (headNote (notes.drop cursor)).buildId]) := by
          rw [disputed_concat]
          rintro (hdispute | hdiffers)
          · exact hagree hdispute
          · exact hsame hdiffers
        have hfirst : firstReport (seen ++ [some (headNote (notes.drop cursor)).buildId]) =
            some (headNote (notes.drop cursor)).buildId :=
          firstReport_of_mem hstill (mem_append_right _ (mem_singleton_self _))
        have hrest := ih (seen ++ [some (headNote (notes.drop cursor)).buildId]) hstill
        rwa [hfirst] at hrest

theorem reads_malformed {reports : Option (List (Option String))} (h : Reads reports .malformed) :
    reports = none := by
  cases reports with
  | none => rfl
  | some reports => cases h

/-- The verdict on one segment. -/
theorem parseGnuBuildIdNotes_reads (notes : List Byte) :
    Reads ((NoteFormat.notes notes).map fun found => found.map strictReport)
      (parseGnuBuildIdNotes notes) :=
  parse_reads notes 0 [] not_disputed_nil

section Merge
variable {left right : List (Option String)} {current next : ElfBuildIdResult}

theorem merge_verdict (hleft : Verdict left current) (hright : Verdict right next) :
    Verdict (left ++ right) (mergeElfBuildIdResults current next) := by
  cases hleft with
  | ambiguous hdisputed =>
    have hresult : mergeElfBuildIdResults .ambiguous next = .ambiguous := by
      cases hright <;> rfl
    rw [hresult]
    exact .ambiguous (disputed_append.mpr (Or.inl hdisputed))
  | notFound hsilent =>
    have hresult : mergeElfBuildIdResults .notFound next = next := by
      cases hright <;> rfl
    rw [hresult]
    cases hright with
    | ambiguous hdisputed => exact .ambiguous (disputed_append.mpr (Or.inr (Or.inl hdisputed)))
    | notFound hnone =>
      exact .notFound (by rw [firstReport_append, hsilent, hnone]; rfl)
    | found hfirst hagree =>
      refine .found (by rw [firstReport_append, hsilent, hfirst]; rfl) ?_
      rw [disputed_append, hsilent]
      rintro (hdisputed | hdisputed | hdiffers)
      · obtain ⟨first, -, hmem, -⟩ := hdisputed
        exact firstReport_eq_none_iff.mp hsilent first hmem
      · exact hagree hdisputed
      · cases hdiffers
  | @found id hfirst hagree =>
    cases hright with
    | ambiguous hdisputed => exact .ambiguous (disputed_append.mpr (Or.inr (Or.inl hdisputed)))
    | notFound hnone =>
      refine .found (by rw [firstReport_append, hfirst]; rfl) ?_
      rw [disputed_append, hfirst, hnone]
      rintro (hdisputed | hdisputed | hdiffers)
      · exact hagree hdisputed
      · obtain ⟨first, -, hmem, -⟩ := hdisputed
        exact firstReport_eq_none_iff.mp hnone first hmem
      · cases hdiffers
    | @found id' hfirst' hagree' =>
      by_cases hsame : id = id'
      · subst hsame
        have hresult : mergeElfBuildIdResults (.found id) (.found id) = .found id := by
          simp [mergeElfBuildIdResults]
        rw [hresult]
        refine .found (by rw [firstReport_append, hfirst]; rfl) ?_
        rw [disputed_append, hfirst, hfirst']
        rintro (hdisputed | hdisputed | hdiffers)
        · exact hagree hdisputed
        · exact hagree' hdisputed
        · simp [differs] at hdiffers
      · have hresult : mergeElfBuildIdResults (.found id) (.found id') = .ambiguous := by
          simp [mergeElfBuildIdResults, hsame]
        rw [hresult]
        refine .ambiguous (disputed_append.mpr (Or.inr (Or.inr ?_)))
        rw [hfirst, hfirst']
        exact decide_eq_true hsame

/-- A segment that is not well formed leaves nothing to be found. -/
theorem merge_reads {left right : Option (List (Option String))} (hleft : Reads left current)
    (hright : Reads right next) :
    Reads (left.bind fun first => right.map fun rest => first ++ rest)
      (mergeElfBuildIdResults current next) := by
  cases left with
  | none =>
    rcases hleft with rfl | rfl
    · exact Or.inl rfl
    · cases next with
      | malformed => exact Or.inl rfl
      | _ => exact Or.inr rfl
  | some left =>
    cases right with
    | none =>
      rcases hright with rfl | rfl
      · cases current with
        | malformed => exact Or.inl rfl
        | _ => exact Or.inl rfl
      · cases current with
        | malformed => exact Or.inl rfl
        | _ => exact Or.inr rfl
    | some right => exact merge_verdict hleft hright

end Merge

/-- The contents of the note segments. -/
def noteSegments (bytes : List Byte) (headers : List ElfProgramHeader) : List (List Byte) :=
  (headers.filter fun header => header.type == kPtNote).map fun header => header.contents bytes

theorem noteSegments_cons {bytes : List Byte} {header : ElfProgramHeader}
    {headers : List ElfProgramHeader} (h : header.type = kPtNote) :
    noteSegments bytes (header :: headers) =
      header.contents bytes :: noteSegments bytes headers := by
  simp only [noteSegments, filter_cons, h, BEq.rfl, if_true, map_cons]

theorem noteSegments_skip {bytes : List Byte} {header : ElfProgramHeader}
    {headers : List ElfProgramHeader} (h : header.type ≠ kPtNote) :
    noteSegments bytes (header :: headers) = noteSegments bytes headers := by
  simp only [noteSegments, filter_cons, beq_iff_eq, h, if_false]

/-- The verdict on all segments, after those that were merged. -/
theorem read_reads {bytes : List Byte} {headers : List ElfProgramHeader}
    {merged : Option (List (Option String))} {aggregate : ElfBuildIdResult}
    (h : Reads merged aggregate) :
    Reads (merged.bind fun reports => (allNotes (noteSegments bytes headers)).map fun found =>
        reports ++ found.map strictReport)
      (readGnuBuildIdNotes bytes headers aggregate) := by
  induction headers generalizing merged aggregate with
  | nil =>
    have hnone : (merged.bind fun reports => (allNotes (noteSegments bytes [])).map fun found =>
        reports ++ found.map strictReport) = merged := by
      cases merged with
      | none => rfl
      | some reports => simp [noteSegments, allNotes]
    rw [hnone]
    exact h
  | cons header headers ih =>
    rw [readGnuBuildIdNotes]
    by_cases htype : header.type = kPtNote
    · rw [if_neg (not_not.mpr htype), noteSegments_cons htype]
      have hmerged := merge_reads h (parseGnuBuildIdNotes_reads (header.contents bytes))
      have hrest := ih hmerged
      have hsame : (merged.bind fun reports =>
          (allNotes (header.contents bytes :: noteSegments bytes headers)).map fun found =>
            reports ++ found.map strictReport) =
          ((merged.bind fun first => ((NoteFormat.notes (header.contents bytes)).map fun found =>
            found.map strictReport).map fun rest => first ++ rest).bind fun reports =>
              (allNotes (noteSegments bytes headers)).map fun found =>
                reports ++ found.map strictReport) := by
        cases merged with
        | none => rfl
        | some reports =>
          cases hfirst : NoteFormat.notes (header.contents bytes) with
          | none => simp [allNotes, hfirst]
          | some first =>
            cases hothers : allNotes (noteSegments bytes headers) with
            | none => simp [allNotes, hothers]
            | some others => simp [allNotes, hfirst, hothers]
      rw [hsame]
      dsimp only
      split
      next hmalformed =>
        rw [hmalformed] at hmerged ⊢
        rw [reads_malformed hmerged]
        exact Or.inl rfl
      · exact hrest
    · rw [if_pos htype, noteSegments_skip htype]
      exact ih h

end Runtime

/-! ## The readings of the tools -/

section Tools
variable {bytes : List Byte} {segmentEnd : Nat}

/-- The bytes from the cursor to the end of the segment. -/
theorem segment_length (h : segmentEnd ≤ bytes.length) (cursor : Nat) :
    ((bytes.take segmentEnd).drop cursor).length = segmentEnd - cursor := by
  rw [length_drop, length_take, Nat.min_eq_left h]

/-- The words of a header, read in the whole file. -/
theorem segment_word {cursor offset : Nat} (h : cursor + offset + 4 ≤ segmentEnd) :
    word bytes (cursor + offset) = word ((bytes.take segmentEnd).drop cursor) offset := by
  rw [word_drop, word_take h]

/-- The head of a segment that fits, as the loops over the whole file read it. -/
structure HeadRead (bytes : List Byte) (segmentEnd cursor : Nat) (head : Note) (size : Nat) :
    Prop where
  header : cursor + 12 ≤ segmentEnd
  gnu : word bytes (cursor + 8) = 3 ∧
    (bytes.drop (cursor + 12)).take (min (word bytes cursor) 3) = gnuPrefix ↔
      head.namesGnu = true
  descriptor : (bytes.drop (cursor + 12 + padded (word bytes cursor))).take
    (word bytes (cursor + 4)) = head.descriptor
  next : cursor + 12 + padded (word bytes cursor) + padded (word bytes (cursor + 4)) =
    cursor + size
  fits : cursor + size ≤ segmentEnd

theorem headRead {cursor : Nat} (hend : segmentEnd ≤ bytes.length)
    (hfits : headSize ((bytes.take segmentEnd).drop cursor) ≤
      ((bytes.take segmentEnd).drop cursor).length) :
    HeadRead bytes segmentEnd cursor (headNote ((bytes.take segmentEnd).drop cursor))
      (headSize ((bytes.take segmentEnd).drop cursor)) := by
  have hlength := segment_length hend cursor
  have hsize : headSize ((bytes.take segmentEnd).drop cursor) =
      12 + padded (word ((bytes.take segmentEnd).drop cursor) 0) +
        padded (word ((bytes.take segmentEnd).drop cursor) 4) := rfl
  have hinside : cursor + 12 ≤ segmentEnd := by omega
  have hnamesz : word bytes cursor = word ((bytes.take segmentEnd).drop cursor) 0 := by
    rw [word_drop, Nat.add_zero, word_take (show cursor + 4 ≤ segmentEnd by omega)]
  have hdescsz : word bytes (cursor + 4) = word ((bytes.take segmentEnd).drop cursor) 4 :=
    segment_word (by omega)
  have hname := le_padded (word bytes cursor)
  have hdescriptor := le_padded (word bytes (cursor + 4))
  rw [← hnamesz, ← hdescsz] at hsize
  have htype : word bytes (cursor + 8) = (headNote ((bytes.take segmentEnd).drop cursor)).type :=
    segment_word (by omega)
  have hprefix : (bytes.drop (cursor + 12)).take (min (word bytes cursor) 3) =
      (headNote ((bytes.take segmentEnd).drop cursor)).name.take 3 := by
    simp only [headNote, ← hnamesz, take_take, drop_drop, headerSize, Nat.min_comm 3]
    exact (take_drop_take (by omega)).symm
  refine ⟨hinside, ?_, ?_, by omega, by omega⟩
  · rw [htype, hprefix, namesGnu, Bool.and_eq_true, beq_iff_eq, beq_iff_eq]
    rfl
  · simp only [headNote, ← hnamesz, ← hdescsz, drop_drop, headerSize, ← Nat.add_assoc]
    exact (take_drop_take (by omega)).symm

theorem gnu_min {names : List Byte} {namesz : Nat} :
    namesz ≥ 3 ∧ names.take 3 = gnuPrefix ↔ names.take (min namesz 3) = gnuPrefix := by
  constructor
  · rintro ⟨hsize, hsame⟩
    rw [Nat.min_eq_right hsize]
    exact hsame
  · intro hsame
    have hlength := congrArg List.length hsame
    rw [length_take, show gnuPrefix.length = 3 from rfl] at hlength
    have hsize : namesz ≥ 3 := by omega
    rw [Nat.min_eq_right hsize] at hsame
    exact ⟨hsize, hsame⟩

/-- On a segment that is well formed the indexer takes the first note that names GNU. -/
theorem extractBuildIdFrom_eq (hend : segmentEnd ≤ bytes.length) (cursor : Nat) :
    ∀ found, notes ((bytes.take segmentEnd).drop cursor) = some found →
      extractBuildIdFrom bytes segmentEnd cursor =
        (found.find? namesGnu).map Note.buildId := by
  induction cursor using cursor_induct (bytes.take segmentEnd) with
  | short cursor hshort =>
    intro found hfound
    rw [notes_short hshort] at hfound
    rw [segment_length hend, headerSize] at hshort
    rw [extractBuildIdFrom, if_neg (by omega)]
    split at hfound
    · obtain rfl := Option.some.inj hfound
      rfl
    · cases hfound
  | truncated cursor hheader htruncated =>
    intro found hfound
    rw [notes_truncated hheader htruncated] at hfound
    cases hfound
  | note cursor hfits ih =>
    intro found hfound
    rw [notes_cons hfits, drop_drop, Option.map_eq_some_iff] at hfound
    obtain ⟨rest, hrest, rfl⟩ := hfound
    have hread := headRead hend hfits
    rw [extractBuildIdFrom, if_pos hread.header]
    dsimp only
    rw [hread.next, if_neg (Nat.not_lt.mpr hread.fits), List.find?_cons]
    cases htaken : (headNote ((bytes.take segmentEnd).drop cursor)).namesGnu with
    | true =>
      obtain ⟨htype, hname⟩ := hread.gnu.mpr htaken
      rw [if_pos ⟨htype, gnu_min.mpr hname⟩, hread.descriptor]
      rfl
    | false =>
      have hnot : ¬(word bytes (cursor + 8) = 3 ∧ word bytes cursor ≥ 3 ∧
          (bytes.drop (cursor + 12)).take 3 = gnuPrefix) := by
        rintro ⟨htype, hname⟩
        rw [hread.gnu.mp ⟨htype, gnu_min.mp hname⟩] at htaken
        cases htaken
      rw [if_neg hnot]
      exact ih rest hrest

/-- The sidecar builder takes the last one, over what it had. -/
theorem parseElf64NotesFrom_eq (hend : segmentEnd ≤ bytes.length) (cursor : Nat) :
    ∀ found buildId, notes ((bytes.take segmentEnd).drop cursor) = some found →
      parseElf64NotesFrom bytes segmentEnd cursor buildId =
        (((found.filter namesGnu).getLast?).map Note.buildId).getD buildId := by
  induction cursor using cursor_induct (bytes.take segmentEnd) with
  | short cursor hshort =>
    intro found buildId hfound
    rw [notes_short hshort] at hfound
    rw [segment_length hend, headerSize] at hshort
    rw [parseElf64NotesFrom, if_neg (by omega)]
    split at hfound
    · obtain rfl := Option.some.inj hfound
      rfl
    · cases hfound
  | truncated cursor hheader htruncated =>
    intro found buildId hfound
    rw [notes_truncated hheader htruncated] at hfound
    cases hfound
  | note cursor hfits ih =>
    intro found buildId hfound
    rw [notes_cons hfits, drop_drop, Option.map_eq_some_iff] at hfound
    obtain ⟨rest, hrest, rfl⟩ := hfound
    have hread := headRead hend hfits
    rw [parseElf64NotesFrom, if_pos hread.header]
    dsimp only
    rw [hread.next, if_neg (Nat.not_lt.mpr hread.fits)]
    cases htaken : (headNote ((bytes.take segmentEnd).drop cursor)).namesGnu with
    | true =>
      rw [if_pos (hread.gnu.mpr htaken), hread.descriptor, ih rest _ hrest,
        filter_cons_of_pos htaken, List.getLast?_cons]
      cases (rest.filter namesGnu).getLast? <;> rfl
    | false =>
      have hnot := fun htest => Bool.false_ne_true (htaken.symm.trans (hread.gnu.mp htest))
      rw [if_neg hnot, ih rest buildId hrest,
        filter_cons_of_neg (by rw [htaken]; exact Bool.false_ne_true)]

/-- The contents of a segment inside the file, as the loops over the whole file see it. -/
theorem contents_eq (header : ElfProgramHeader) (bytes : List Byte) :
    header.contents bytes =
      (bytes.take (header.offset + header.fileSize)).drop header.offset := by
  rw [ElfProgramHeader.contents, drop_take, Nat.add_sub_cancel_left]

section Segments
variable {headers : List ElfProgramHeader} {found : List Note}

theorem extractBuildId_eq
    (hinside : ∀ header ∈ headers, header.type = kPtNote →
      header.offset + header.fileSize ≤ bytes.length)
    (hfound : allNotes (noteSegments bytes headers) = some found) :
    extractBuildId bytes headers = (found.find? namesGnu).map Note.buildId := by
  induction headers generalizing found with
  | nil =>
    obtain rfl := Option.some.inj hfound
    rfl
  | cons header headers ih =>
    rw [forall_mem_cons] at hinside
    rw [extractBuildId]
    by_cases htype : header.type = kPtNote
    · rw [noteSegments_cons htype, allNotes_cons_eq_some] at hfound
      obtain ⟨first, rest, hfirst, hrest, rfl⟩ := hfound
      have hend := hinside.1 htype
      rw [contents_eq] at hfirst
      rw [if_neg (not_not.mpr htype), Nat.min_eq_left hend,
        extractBuildIdFrom_eq hend header.offset first hfirst, ih hinside.2 hrest,
        List.find?_append]
      cases first.find? namesGnu <;> rfl
    · rw [noteSegments_skip htype] at hfound
      rw [if_pos htype]
      exact ih hinside.2 hfound

theorem parseElf64BuildId_eq
    (hinside : ∀ header ∈ headers, header.type = kPtNote →
      header.offset + header.fileSize ≤ bytes.length)
    (hfound : allNotes (noteSegments bytes headers) = some found) (buildId : String) :
    parseElf64BuildId bytes headers buildId =
      (((found.filter namesGnu).getLast?).map Note.buildId).getD buildId := by
  induction headers generalizing found buildId with
  | nil =>
    obtain rfl := Option.some.inj hfound
    rfl
  | cons header headers ih =>
    rw [forall_mem_cons] at hinside
    rw [parseElf64BuildId]
    by_cases htype : header.type = kPtNote
    · rw [noteSegments_cons htype, allNotes_cons_eq_some] at hfound
      obtain ⟨first, rest, hfirst, hrest, rfl⟩ := hfound
      have hend := hinside.1 htype
      rw [contents_eq] at hfirst
      rw [if_neg (not_not.mpr htype), Nat.min_eq_right hend, ih hinside.2 hrest,
        parseElf64NotesFrom_eq hend header.offset first buildId hfirst, filter_append,
        List.getLast?_append]
      cases (rest.filter namesGnu).getLast? <;> rfl
    · rw [noteSegments_skip htype] at hfound
      rw [if_pos htype]
      exact ih hinside.2 hfound buildId

end Segments

end Tools

/-! ## Agreement -/

theorem digits_injective {left right : Byte}
    (hhigh : Nat.digitChar (left.toNat / 16) = Nat.digitChar (right.toNat / 16))
    (hlow : Nat.digitChar (left.toNat % 16) = Nat.digitChar (right.toNat % 16)) :
    left = right := by
  have hdigit : ∀ first < 16, ∀ second < 16,
      Nat.digitChar first = Nat.digitChar second → first = second := by decide
  have hleft := left.isLt
  have hright := right.isLt
  have hdiv := hdigit _ (by omega) _ (by omega) hhigh
  have hmod := hdigit _ (by omega) _ (by omega) hlow
  apply BitVec.eq_of_toNat_eq
  omega

theorem bytesToHex_injective {left right : List Byte} (h : bytesToHex left = bytesToHex right) :
    left = right := by
  have hdigits := String.ofList_injective h
  clear h
  induction left generalizing right with
  | nil =>
    cases right with
    | nil => rfl
    | cons byte right => cases hdigits
  | cons byte left ih =>
    cases right with
    | nil => cases hdigits
    | cons byte' right =>
      simp only [flatMap_cons, cons_append, nil_append, List.cons.injEq] at hdigits
      rw [digits_injective hdigits.1 hdigits.2.1, ih hdigits.2.2]

/-- A file with its note segments inside it. -/
structure NoteImage where
  bytes : List Byte
  headers : List ElfProgramHeader
  inside : ∀ header ∈ headers, header.type = kPtNote →
    header.offset + header.fileSize ≤ bytes.length

namespace NoteImage
variable (image : NoteImage)

/-- The build id of the loaded image. -/
def runtimeBuildId : ElfBuildIdResult :=
  readGnuBuildIdNotes image.bytes image.headers .notFound

/-- Both tools find the build id that the runtime finds, and none where it finds none. -/
structure BuildIdsAgree : Prop where
  found : ∀ id, image.runtimeBuildId = .found id →
    extractBuildId image.bytes image.headers = some id ∧
      parseElf64BuildId image.bytes image.headers "" = id
  notFound : image.runtimeBuildId = .notFound →
    extractBuildId image.bytes image.headers = none ∧
      parseElf64BuildId image.bytes image.headers "" = ""

/-- Where all segments are well formed and the notes the runtime takes agree: either no note of type
3 has a name that begins with GNU, or the first and the last one that does have the descriptor of a
note the runtime takes. -/
def LooseNotesAgree : Prop :=
  ∀ found, allNotes (noteSegments image.bytes image.headers) = some found →
    (∀ left ∈ found, ∀ right ∈ found, left.isBuildId = true → right.isBuildId = true →
      left.descriptor = right.descriptor) →
    (∀ note ∈ found, note.namesGnu = false) ∨
      ∃ note ∈ found, note.isBuildId = true ∧
        (found.find? namesGnu).map descriptor = some note.descriptor ∧
        ((found.filter namesGnu).getLast?).map descriptor = some note.descriptor

theorem runtimeBuildId_reads :
    Reads ((allNotes (noteSegments image.bytes image.headers)).map fun found =>
        found.map strictReport) image.runtimeBuildId := by
  have hstart : Reads (some []) .notFound := Verdict.notFound firstReport_nil
  exact read_reads hstart

end NoteImage

section Agreement
variable {found : List Note}

theorem strictReport_mem {id : String} :
    some id ∈ found.map strictReport ↔
      ∃ note ∈ found, note.isBuildId = true ∧ note.buildId = id := by
  rw [mem_map]
  constructor
  · rintro ⟨note, hmem, hreport⟩
    unfold strictReport at hreport
    split at hreport
    next hstrict => exact ⟨note, hmem, hstrict, Option.some.inj hreport⟩
    · cases hreport
  · rintro ⟨note, hmem, hstrict, rfl⟩
    exact ⟨note, hmem, if_pos hstrict⟩

theorem not_disputed_notes :
    ¬ Disputed (found.map strictReport) ↔
      ∀ left ∈ found, ∀ right ∈ found, left.isBuildId = true → right.isBuildId = true →
        left.descriptor = right.descriptor := by
  constructor
  · intro hagree left hleft right hright hleftStrict hrightStrict
    exact bytesToHex_injective (eq_of_not_disputed hagree
      (strictReport_mem.mpr ⟨left, hleft, hleftStrict, rfl⟩)
      (strictReport_mem.mpr ⟨right, hright, hrightStrict, rfl⟩))
  · rintro hsame ⟨first, second, hfirst, hsecond, hne⟩
    obtain ⟨left, hleft, hleftStrict, rfl⟩ := strictReport_mem.mp hfirst
    obtain ⟨right, hright, hrightStrict, rfl⟩ := strictReport_mem.mp hsecond
    exact hne (congrArg bytesToHex (hsame left hleft right hright hleftStrict hrightStrict))

/-- One id is the other's exactly when the descriptors are. -/
theorem buildId_map_iff {chosen : Option Note} {note : Note} :
    chosen.map Note.buildId = some note.buildId ↔
      chosen.map descriptor = some note.descriptor := by
  cases chosen with
  | none => exact iff_of_false nofun nofun
  | some other =>
    rw [Option.map_some, Option.map_some, Option.some.injEq, Option.some.injEq]
    exact ⟨fun h => bytesToHex_injective h, fun h => congrArg bytesToHex h⟩

theorem loose_none_iff :
    (∀ note ∈ found, note.namesGnu = false) ↔ found.find? namesGnu = none := by
  rw [List.find?_eq_none]
  exact forall₂_congr fun note _ => Bool.eq_false_iff

theorem filter_none (h : ∀ note ∈ found, note.namesGnu = false) :
    found.filter namesGnu = [] := by
  rw [filter_eq_nil_iff]
  exact fun note hmem => Bool.eq_false_iff.mp (h note hmem)

end Agreement

theorem NoteImage.BuildIdsAgree.loose {image : NoteImage} (hagree : image.BuildIdsAgree) :
    image.LooseNotesAgree := by
  intro found hfound hsame
  have hreads := image.runtimeBuildId_reads
  rw [hfound, Option.map_some] at hreads
  have hextract := extractBuildId_eq image.inside hfound
  have hparse := parseElf64BuildId_eq image.inside hfound ""
  generalize hresult : image.runtimeBuildId = result at hreads
  cases hreads with
  | ambiguous hdisputed => exact absurd hdisputed (not_disputed_notes.mpr hsame)
  | notFound hsilent =>
    refine Or.inl (loose_none_iff.mpr ?_)
    have hnone := (hagree.notFound hresult).1
    rw [hextract, Option.map_eq_none_iff] at hnone
    exact hnone
  | @found id hfirst _ =>
    obtain ⟨note, hmem, hstrict, rfl⟩ := strictReport_mem.mp (firstReport_mem hfirst)
    obtain ⟨hrust, hpython⟩ := hagree.found _ hresult
    rw [hextract] at hrust
    rw [hparse] at hpython
    refine Or.inr ⟨note, hmem, hstrict, buildId_map_iff.mp hrust, buildId_map_iff.mp ?_⟩
    have hloose : note ∈ found.filter namesGnu :=
      mem_filter.mpr ⟨hmem, namesGnu_of_isBuildId hstrict⟩
    cases hlast : (found.filter namesGnu).getLast? with
    | none => exact absurd (List.getLast?_eq_none_iff.mp hlast) (ne_nil_of_mem hloose)
    | some last =>
      rw [hlast] at hpython
      exact congrArg some hpython

theorem NoteImage.LooseNotesAgree.agree {image : NoteImage} (hloose : image.LooseNotesAgree) :
    image.BuildIdsAgree := by
  have hreads := image.runtimeBuildId_reads
  cases hfound : allNotes (noteSegments image.bytes image.headers) with
  | none =>
    rw [hfound] at hreads
    refine ⟨fun id hid => ?_, fun hid => ?_⟩
    · rw [hid] at hreads
      exact hreads.elim nofun nofun
    · rw [hid] at hreads
      exact hreads.elim nofun nofun
  | some found =>
    rw [hfound, Option.map_some] at hreads
    have hextract := extractBuildId_eq image.inside hfound
    have hparse := parseElf64BuildId_eq image.inside hfound ""
    refine ⟨fun id hid => ?_, fun hid => ?_⟩
    · rw [hid] at hreads
      obtain ⟨hfirst, hagree⟩ : firstReport (found.map strictReport) = some id ∧
          ¬ Disputed (found.map strictReport) := by
        cases hreads with
        | found hfirst hagree => exact ⟨hfirst, hagree⟩
      have hsame := not_disputed_notes.mp hagree
      obtain ⟨note, hmem, hstrict, rfl⟩ := strictReport_mem.mp (firstReport_mem hfirst)
      rcases hloose found hfound hsame with hnone | ⟨chosen, hchosen, htaken, hhead, hlast⟩
      · have hnames := namesGnu_of_isBuildId hstrict
        rw [hnone note hmem] at hnames
        cases hnames
      · have hid : chosen.buildId = note.buildId :=
          congrArg bytesToHex (hsame chosen hchosen note hmem htaken hstrict)
        rw [hextract, hparse, buildId_map_iff.mpr hhead, buildId_map_iff.mpr hlast, hid]
        exact ⟨rfl, rfl⟩
    · rw [hid] at hreads
      have hsilent : firstReport (found.map strictReport) = none := by
        cases hreads with
        | notFound hsilent => exact hsilent
      have hnostrict : ∀ note ∈ found, note.isBuildId = true → False :=
        fun note hmem hstrict => firstReport_eq_none_iff.mp hsilent note.buildId
          (strictReport_mem.mpr ⟨note, hmem, hstrict, rfl⟩)
      rcases hloose found hfound fun left hleft _ _ hstrict _ =>
          (hnostrict left hleft hstrict).elim with hnone | ⟨chosen, hchosen, htaken, -⟩
      · rw [hextract, hparse, loose_none_iff.mp hnone, filter_none hnone]
        exact ⟨rfl, rfl⟩
      · exact (hnostrict chosen hchosen htaken).elim

/-- The tools agree with the runtime exactly when, on well-formed segments whose build-id notes
agree, the notes the tools look at lead to those. -/
theorem build_ids_agree (image : NoteImage) : image.BuildIdsAgree ↔ image.LooseNotesAgree :=
  ⟨fun h => h.loose, fun h => h.agree⟩

/-- A note whose name is GNU without its terminator. -/
def unterminatedNote : NoteImage where
  bytes := [3, 0, 0, 0, 1, 0, 0, 0, 3, 0, 0, 0, 0x47, 0x4e, 0x55, 0, 0xab, 0, 0, 0]
  headers := [⟨kPtNote, 0, 20⟩]
  inside := by decide

/-- The runtime finds no build id there, and the indexer does. -/
theorem unterminated_note_disagrees : ¬ unterminatedNote.BuildIdsAgree := by
  intro hagree
  have hruntime : unterminatedNote.runtimeBuildId = .notFound := by decide +kernel
  have hindexer : extractBuildId unterminatedNote.bytes unterminatedNote.headers = some "ab" := by
    decide +kernel
  have hnone := (hagree.notFound hruntime).1
  rw [hindexer] at hnone
  cases hnone

end DartPlant
