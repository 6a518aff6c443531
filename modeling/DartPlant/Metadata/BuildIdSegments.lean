import DartPlant.Lib.BoundedReads
import DartPlant.Lib.NoteEncoding
import DartPlant.Metadata.BuildIdAgreement

/-! # The build id of separate note segments

An image may have several note segments, each read on its own; the results are merged one by one.
Read with every access checked, a segment is never left.  On written notes the result is decided by
the notes the runtime takes, and by which they are only, not by where they stand: so the merge is the
result of all the notes together, in any order.
-/

namespace DartPlant
open NoteFormat Consensus BoundedReads

/-! ## Reading inside the segment -/

/-- The loop of `ParseGnuBuildIdNotes`, with its reads. -/
def readGnuBuildIdNotesFrom (notes : List Byte) (cursor : Nat) (buildId : Option String) :
    Reading ElfBuildIdResult :=
  if cursor < notes.length then
    if notes.length - cursor < 12 then do
      let tail ← slice notes cursor (notes.length - cursor)
      if tail.all fun value => value == 0 then
        match buildId with
        | some id => return .found id
        | none => return .notFound
      else return .malformed
    else do
      let note ← slice notes cursor 12
      let nameOffset := cursor + 12
      match alignUp4 (word note 0), alignUp4 (word note 4) with
      | some paddedName, some paddedDesc =>
        if paddedName > notes.length - nameOffset then return .malformed
        else
          let descriptorOffset := nameOffset + paddedName
          if paddedDesc > notes.length - descriptorOffset then return .malformed
          else if word note 8 = kGnuBuildIdType ∧ word note 0 = 4 ∧ word note 4 ≠ 0 then do
            let name ← slice notes nameOffset 4
            if name = gnuName then do
              let descriptor ← slice notes descriptorOffset (word note 4)
              let candidate := bytesToHex descriptor
              if buildId.isSome ∧ buildId ≠ some candidate then return .ambiguous
              else readGnuBuildIdNotesFrom notes (descriptorOffset + paddedDesc) (some candidate)
            else readGnuBuildIdNotesFrom notes (descriptorOffset + paddedDesc) buildId
          else readGnuBuildIdNotesFrom notes (descriptorOffset + paddedDesc) buildId
      | _, _ => return .malformed
  else
    match buildId with
    | some id => return .found id
    | none => return .notFound
termination_by notes.length - cursor

/-- `ParseGnuBuildIdNotes`, with its reads. -/
def readGnuBuildIdSegment (notes : List Byte) : Reading ElfBuildIdResult :=
  readGnuBuildIdNotesFrom notes 0 none

section Inside
variable {notes : List Byte} {cursor : Nat}

/-- The header that is copied out of the notes has the words at the cursor. -/
theorem word_header {offset : Nat} (h : offset + 4 ≤ 12) :
    word ((notes.drop cursor).take 12) offset = word notes (cursor + offset) := by
  rw [word_take h, word_drop]

/-- The loop reads inside the notes, and finds what it finds without looking where it reads. -/
theorem readGnuBuildIdNotesFrom_eq (notes : List Byte) (cursor : Nat) (buildId : Option String) :
    readGnuBuildIdNotesFrom notes cursor buildId =
      .ok (parseGnuBuildIdNotesFrom notes cursor buildId) := by
  induction hleft : notes.length - cursor using Nat.strongRecOn generalizing cursor buildId with
  | ind left ih =>
    subst hleft
    rw [readGnuBuildIdNotesFrom.eq_def, parseGnuBuildIdNotesFrom.eq_def]
    by_cases hcursor : cursor < notes.length
    swap
    · rw [if_neg hcursor, if_neg hcursor]
      cases buildId <;> rfl
    rw [if_pos hcursor, if_pos hcursor]
    by_cases hshort : notes.length - cursor < 12
    · rw [if_pos hshort, if_pos hshort, slice_of_le (by omega), ok_bind]
      rw [← List.length_drop, List.take_length]
      split
      · cases buildId <;> rfl
      · rfl
    rw [if_neg hshort, if_neg hshort, slice_of_le (by omega), ok_bind]
    simp only [word_header (by omega : 0 + 4 ≤ 12), word_header (by omega : 4 + 4 ≤ 12),
      word_header (by omega : 8 + 4 ≤ 12), Nat.add_zero, alignUp4_word]
    have hname := le_padded (word notes cursor)
    have hdescriptor := le_padded (word notes (cursor + 4))
    by_cases hnameFits : padded (word notes cursor) > notes.length - (cursor + 12)
    · rw [if_pos hnameFits, if_pos hnameFits]
      rfl
    rw [if_neg hnameFits, if_neg hnameFits]
    by_cases hdescFits : padded (word notes (cursor + 4)) >
        notes.length - (cursor + 12 + padded (word notes cursor))
    · rw [if_pos hdescFits, if_pos hdescFits]
      rfl
    rw [if_neg hdescFits, if_neg hdescFits]
    have hnext := fun buildId => ih _ (by omega)
      (cursor + 12 + padded (word notes cursor) + padded (word notes (cursor + 4))) buildId rfl
    by_cases htype : word notes (cursor + 8) = kGnuBuildIdType ∧ word notes cursor = 4 ∧
        word notes (cursor + 4) ≠ 0
    swap
    · rw [if_neg htype, if_neg fun htest => htype ⟨htest.1, htest.2.1, htest.2.2.1⟩]
      exact hnext buildId
    -- The name has four bytes, so that the comparison does not leave it.
    obtain ⟨hnote, hfour, hsome⟩ := htype
    rw [if_pos ⟨hnote, hfour, hsome⟩, slice_of_le (by omega), ok_bind]
    by_cases hgnu : (notes.drop (cursor + 12)).take 4 = gnuName
    swap
    · rw [if_neg hgnu, if_neg fun htest => hgnu htest.2.2.2]
      exact hnext buildId
    rw [if_pos hgnu, if_pos ⟨hnote, hfour, hsome, hgnu⟩, slice_of_le (by omega), ok_bind]
    split
    · rfl
    · exact hnext _

/-- `ParseGnuBuildIdNotes` reads nothing outside its span. -/
theorem readGnuBuildIdSegment_eq (notes : List Byte) :
    readGnuBuildIdSegment notes = .ok (parseGnuBuildIdNotes notes) :=
  readGnuBuildIdNotesFrom_eq notes 0 none

end Inside

/-! ## What decides the result -/

section Verdicts
variable {reports more : List (Option String)} {result result' : ElfBuildIdResult}

/-- The verdict depends on what is reported, not on the order or the number of times. -/
theorem Verdict.unique (h : Verdict reports result) (h' : Verdict more result')
    (hsame : ∀ id, some id ∈ reports ↔ some id ∈ more) : result = result' := by
  have hdispute : Disputed reports ↔ Disputed more :=
    ⟨fun hreports => hreports.mono fun id => (hsame id).mp,
      fun hmore => hmore.mono fun id => (hsame id).mpr⟩
  cases h with
  | ambiguous hdisputed =>
    cases h' with
    | ambiguous => rfl
    | found _ hagree => exact absurd (hdispute.mp hdisputed) hagree
    | notFound hsilent =>
      obtain ⟨first, -, hmem, -⟩ := hdispute.mp hdisputed
      exact absurd hmem (firstReport_eq_none_iff.mp hsilent first)
  | @found id hfirst hagree =>
    have hmore := (firstReport_congr hagree hsame).symm.trans hfirst
    cases h' with
    | ambiguous hdisputed => exact absurd (hdispute.mpr hdisputed) hagree
    | found hfirst' => exact congrArg _ (Option.some.inj (hmore.symm.trans hfirst'))
    | notFound hsilent => cases hmore.symm.trans hsilent
  | notFound hsilent =>
    have hnone : ∀ id, some id ∉ more := fun id hmem =>
      firstReport_eq_none_iff.mp hsilent id ((hsame id).mpr hmem)
    cases h' with
    | ambiguous hdisputed =>
      obtain ⟨first, -, hmem, -⟩ := hdisputed
      exact absurd hmem (hnone first)
    | @found id hfirst => exact absurd (firstReport_mem hfirst) (hnone id)
    | notFound => rfl

end Verdicts

/-- The result is the build id of the notes when they have one, and says whether they have none or
several. -/
structure DecidesBuildId (notes : List Note) (result : ElfBuildIdResult) : Prop where
  found : ∀ id, result = .found id ↔ ∃ note ∈ notes, note.isBuildId = true ∧ note.buildId = id ∧
    ∀ other ∈ notes, other.isBuildId = true → other.descriptor = note.descriptor
  ambiguous : result = .ambiguous ↔ ∃ left ∈ notes, ∃ right ∈ notes, left.isBuildId = true ∧
    right.isBuildId = true ∧ left.descriptor ≠ right.descriptor
  notFound : result = .notFound ↔ ∀ note ∈ notes, note.isBuildId = false

section Decides
variable {notes : List Note} {result : ElfBuildIdResult}

theorem disputed_notes_iff :
    Disputed (notes.map strictReport) ↔ ∃ left ∈ notes, ∃ right ∈ notes, left.isBuildId = true ∧
      right.isBuildId = true ∧ left.descriptor ≠ right.descriptor := by
  rw [← not_iff_not, not_disputed_notes]
  constructor
  · rintro hsame ⟨left, hleft, right, hright, hleftTaken, hrightTaken, hne⟩
    exact hne (hsame left hleft right hright hleftTaken hrightTaken)
  · intro hnone left hleft right hright hleftTaken hrightTaken
    by_contra hne
    exact hnone ⟨left, hleft, right, hright, hleftTaken, hrightTaken, hne⟩

theorem silent_notes_iff :
    firstReport (notes.map strictReport) = none ↔ ∀ note ∈ notes, note.isBuildId = false := by
  rw [firstReport_eq_none_iff]
  constructor
  · intro hsilent note hmem
    cases htaken : note.isBuildId with
    | false => rfl
    | true => exact absurd (strictReport_mem.mpr ⟨note, hmem, htaken, rfl⟩) (hsilent note.buildId)
  · intro hnone id hmem
    obtain ⟨note, hnote, htaken, -⟩ := strictReport_mem.mp hmem
    exact Bool.false_ne_true ((hnone note hnote).symm.trans htaken)

/-- The one build id that the notes agree on. -/
theorem agreed_notes_iff {id : String} :
    firstReport (notes.map strictReport) = some id ∧ ¬ Disputed (notes.map strictReport) ↔
      ∃ note ∈ notes, note.isBuildId = true ∧ note.buildId = id ∧
        ∀ other ∈ notes, other.isBuildId = true → other.descriptor = note.descriptor := by
  constructor
  · rintro ⟨hfirst, hagree⟩
    obtain ⟨note, hmem, htaken, hid⟩ := strictReport_mem.mp (firstReport_mem hfirst)
    refine ⟨note, hmem, htaken, hid, fun other hother hothertaken => ?_⟩
    exact not_disputed_notes.mp hagree other hother note hmem hothertaken htaken
  · rintro ⟨note, hmem, htaken, rfl, hsame⟩
    have hagree : ¬ Disputed (notes.map strictReport) := by
      rw [not_disputed_notes]
      intro left hleft right hright hleftTaken hrightTaken
      exact (hsame left hleft hleftTaken).trans (hsame right hright hrightTaken).symm
    exact ⟨firstReport_of_mem hagree (strictReport_mem.mpr ⟨note, hmem, htaken, rfl⟩), hagree⟩

theorem Verdict.decides (h : Verdict (notes.map strictReport) result) :
    DecidesBuildId notes result := by
  constructor
  case found =>
    intro id
    rw [← agreed_notes_iff]
    constructor
    · rintro rfl
      cases h with
      | found hfirst hagree => exact ⟨hfirst, hagree⟩
    · rintro ⟨hfirst, hagree⟩
      exact h.unique (.found hfirst hagree) fun _ => Iff.rfl
  case ambiguous =>
    rw [← disputed_notes_iff]
    constructor
    · rintro rfl
      cases h with
      | ambiguous hdisputed => exact hdisputed
    · intro hdisputed
      exact h.unique (.ambiguous hdisputed) fun _ => Iff.rfl
  case notFound =>
    rw [← silent_notes_iff]
    constructor
    · rintro rfl
      cases h with
      | notFound hsilent => exact hsilent
    · intro hsilent
      exact h.unique (.notFound hsilent) fun _ => Iff.rfl

end Decides

/-! ## Segments -/

/-- The verdict on a segment that was written. -/
theorem segment_verdict (segment : NoteSegment) :
    Verdict (segment.found.map strictReport) (parseGnuBuildIdNotes segment.bytes) := by
  have hreads := parseGnuBuildIdNotes_reads segment.bytes
  rw [segment.notes_bytes] at hreads
  exact hreads

/-- The results of the segments, merged into what there is. -/
theorem merge_segments (segments : List NoteSegment) {reports : List (Option String)}
    {aggregate : ElfBuildIdResult} (h : Verdict reports aggregate) :
    Verdict (reports ++ (segments.flatMap NoteSegment.found).map strictReport)
      ((segments.map fun segment => parseGnuBuildIdNotes segment.bytes).foldl
        mergeElfBuildIdResults aggregate) := by
  induction segments generalizing reports aggregate with
  | nil =>
    rw [List.flatMap_nil, List.map_nil, List.append_nil]
    exact h
  | cons segment segments ih =>
    rw [List.flatMap_cons, List.map_append, ← List.append_assoc]
    exact ih (merge_verdict h (segment_verdict segment))

/-- The segments as one, with zero bytes at the end. -/
def joinSegments (segments : List NoteSegment) (tail : Nat) (h : tail < headerSize) :
    NoteSegment where
  found := segments.flatMap NoteSegment.found
  tail := tail
  encodable := by
    intro note hmem
    obtain ⟨segment, -, hnote⟩ := List.mem_flatMap.mp hmem
    exact segment.encodable note hnote
  short := h

/-- No read leaves the notes; written notes decide the result; and merging the results of segments
is parsing their notes together, in any order. -/
theorem gnu_build_id_notes :
    (∀ notes, readGnuBuildIdSegment notes = .ok (parseGnuBuildIdNotes notes)) ∧
      (∀ segment : NoteSegment,
        DecidesBuildId segment.found (parseGnuBuildIdNotes segment.bytes)) ∧
      ∀ segments others : List NoteSegment, segments.Perm others → ∀ tail < headerSize,
        (segments.map fun segment => parseGnuBuildIdNotes segment.bytes).foldl
            mergeElfBuildIdResults .notFound =
          parseGnuBuildIdNotes (others.flatMap NoteSegment.body ++ List.replicate tail 0) := by
  refine ⟨readGnuBuildIdSegment_eq, fun segment => (segment_verdict segment).decides, ?_⟩
  intro segments others hperm tail htail
  have hmerged := merge_segments segments (Verdict.notFound firstReport_nil)
  have hjoined := segment_verdict (joinSegments others tail htail)
  have hbytes : (joinSegments others tail htail).bytes =
      others.flatMap NoteSegment.body ++ List.replicate tail 0 := by
    rw [encodeNotes_segments]
    rfl
  rw [hbytes] at hjoined
  refine hmerged.unique hjoined fun id => ?_
  have hfound := (hperm.flatMap_right NoteSegment.found).map strictReport
  exact hfound.mem_iff

/-- A build-id note, with zero bytes after it or none. -/
def buildIdSegment (tail : Nat) (h : tail < headerSize) : NoteSegment where
  found := [⟨3, gnuName, [0xab]⟩]
  tail := tail
  encodable := by
    intro note hmem
    obtain rfl := List.mem_singleton.mp hmem
    exact ⟨by decide, by decide, by decide⟩
  short := h

/-- The zero bytes after a segment are not notes: with another segment behind them they are read as
the header of one. -/
theorem padded_segment_not_joined :
    mergeElfBuildIdResults (parseGnuBuildIdNotes (buildIdSegment 4 (by decide)).bytes)
        (parseGnuBuildIdNotes (buildIdSegment 0 (by decide)).bytes) ≠
      parseGnuBuildIdNotes
        ((buildIdSegment 4 (by decide)).bytes ++ (buildIdSegment 0 (by decide)).bytes) := by
  decide +kernel

end DartPlant
