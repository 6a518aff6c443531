import DartPlant.Lib.FallibleLoop
import DartPlant.Lib.SliceSearch
import Mathlib.Data.BitVec

/-! # The locator of compiler code

The sidecar builder looks for the code of a function in the executable segments of the snapshot: first
for the same bytes, then for code that differs in the targets of its branches only.  A branch that
leaves the code is masked down to its opcode, which is the encoding of a branch to itself.
-/

namespace DartPlant
open SliceSearch List

abbrev Bytes := List (BitVec 8)

/-! ## Words -/

/-- The little-endian words of some code. -/
def codeWords : Bytes → List (BitVec 32)
  | b0 :: b1 :: b2 :: b3 :: rest => (b3 ++ b2 ++ b1 ++ b0) :: codeWords rest
  | _ => []

/-- The bytes of a word. -/
def wordBytes (word : BitVec 32) : Bytes :=
  [word.extractLsb' 0 8, word.extractLsb' 8 8, word.extractLsb' 16 8, word.extractLsb' 24 8]

/-- The opcode of `B` and `BL`. -/
def branchOpcode (word : BitVec 32) : BitVec 32 := word &&& 0xfc000000#32

/-- The signed displacement of `B` and `BL`, in words. -/
def branchImm26 (word : BitVec 32) : Int :=
  let imm26 := (word &&& 0x03ffffff#32).toNat
  if imm26 &&& 0x02000000 ≠ 0 then (imm26 : Int) - 2 ^ 26 else imm26

/-- A `B` or `BL` whose target is outside of the code. -/
def leavesCode (size offset : Nat) (word : BitVec 32) : Bool :=
  let target := (offset : Int) + branchImm26 word * 4
  (branchOpcode word = 0x14000000#32 || branchOpcode word = 0x94000000#32) &&
    (target < 0 || (size : Int) ≤ target)

/-- What a word is normalized to. -/
def normalizeWord (size offset : Nat) (word : BitVec 32) : BitVec 32 :=
  if leavesCode size offset word then branchOpcode word else word

/-- `_normalize_aarch64_direct_branches`. -/
def normalizeDirectBranches (code : Bytes) : Option Bytes := do
  guard (code.length % 4 = 0)
  return ((codeWords code).mapIdx fun index word =>
    normalizeWord code.length (4 * index) word).flatMap wordBytes

/-- `_aarch64_has_direct_call_to`. -/
def hasDirectCallTo (code : Bytes) (entryVa targetVa : Int) : Bool :=
  if code.length % 4 ≠ 0 then false
  else ((codeWords code).mapIdx fun index word =>
    branchOpcode word = 0x94000000#32 &&
      entryVa + (4 * index : Nat) + branchImm26 word * 4 = targetVa).any id

/-! ## Segments -/

/-- `LoadSegment`. -/
structure LoadSegment where
  fileOffset : Nat
  virtualAddress : Nat
  fileSize : Nat
  flags : Nat
  deriving DecidableEq, Repr

def LoadSegment.executable (segment : LoadSegment) : Bool := segment.flags % 2 = 1

/-- The end of the segment's bytes in the file. -/
def LoadSegment.stop (segment : LoadSegment) (data : Bytes) : Nat :=
  min data.length (segment.fileOffset + segment.fileSize)

/-- The address of a place of the file in the segment. -/
def LoadSegment.address (segment : LoadSegment) (place : Nat) : Nat :=
  segment.virtualAddress + (place - segment.fileOffset)

def LoadSegment.contains (segment : LoadSegment) (va : Nat) : Bool :=
  segment.virtualAddress ≤ va && va < segment.virtualAddress + segment.fileSize

/-- The place of an address, from the first segment that has it. -/
def fileOffsetOf (segments : List LoadSegment) (va : Nat) : Option Nat :=
  (segments.find? (·.contains va)).map fun segment =>
    segment.fileOffset + (va - segment.virtualAddress)

/-! ## The search -/

/-- What a search fails with. -/
inductive LocateError where
  | unalignedCode
  | unmapped
  | manyExact (addresses : List Nat)
  | notOneNormalized (targetVa : Option Nat) (addresses : List Nat)
  deriving DecidableEq, Repr

/-- The call that a match has to make, if any. -/
def relationHolds (targetVa : Option Nat) (candidate : Bytes) (entryVa : Nat) : Bool :=
  match targetVa with
  | none => true
  | some targetVa => hasDirectCallTo candidate entryVa targetVa

section Search
variable (data : Bytes) (segments : List LoadSegment) (code : Bytes) (targetVa : Option Nat)

/-- The loop for the same bytes. -/
def exactMatches : List Nat :=
  (segments.filter LoadSegment.executable).flatMap fun segment =>
    (findAll data code (segment.stop data) segment.fileOffset).map segment.address

/-- The matches that make the call. -/
def filteredMatches : List Nat :=
  if targetVa.isSome ∧ exactMatches data segments code ≠ [] then
    (exactMatches data segments code).filter fun entryVa =>
      match fileOffsetOf segments entryVa with
      | none => false
      | some place => relationHolds targetVa (slice data place code.length) entryVa
  else exactMatches data segments code

/-- `range(start, limit + 1, 4)`. -/
def steppedPlaces (segment : LoadSegment) : List Nat :=
  (places code.length segment.fileOffset (segment.stop data)).filter fun place =>
    (place - segment.fileOffset) % 4 = 0

/-- The loop for the same code after normalization. -/
def normalizedMatches (normalizedCode : Bytes) : List (Nat × Bytes) :=
  (segments.filter LoadSegment.executable).flatMap fun segment =>
    ((steppedPlaces data code segment).filter fun place =>
      normalizeDirectBranches (slice data place code.length) = some normalizedCode).map fun place =>
        (segment.address place, slice data place code.length)

/-- `_find_unique_executable_code`: the address, the bytes there, and how they were found. -/
def findUniqueExecutableCode : Except LocateError (Nat × Bytes × String) :=
  match filteredMatches data segments code targetVa with
  | [entryVa] =>
    match fileOffsetOf segments entryVa with
    | none => .error .unmapped
    | some place =>
      .ok (entryVa, slice data place code.length,
        if targetVa.isSome then "exact+relation" else "exact")
  | _ :: _ :: _ => .error (.manyExact (filteredMatches data segments code targetVa))
  | [] =>
    match normalizeDirectBranches code with
    | none => .error .unalignedCode
    | some normalizedCode =>
      let found := (normalizedMatches data segments code normalizedCode).filter fun found =>
        relationHolds targetVa found.2 found.1
      match found with
      | [(entryVa, actualCode)] =>
        .ok (entryVa, actualCode,
          if targetVa.isSome then "branch-relocation-normalized+direct-call-relation"
          else "branch-relocation-normalized")
      | found => .error (.notOneNormalized targetVa (found.map Prod.fst))

end Search

/-! ## Normalization, word by word -/

theorem wordBytes_injective {word word' : BitVec 32} (h : wordBytes word = wordBytes word') :
    word = word' := by
  simp only [wordBytes, List.cons.injEq] at h
  obtain ⟨h0, h1, h2, h3, -⟩ := h
  apply BitVec.eq_of_getLsbD_eq
  intro bit hbit
  have hbyte (low : Nat) (hsame : word.extractLsb' low 8 = word'.extractLsb' low 8)
      (hlow : low ≤ bit) (hhigh : bit < low + 8) : word.getLsbD bit = word'.getLsbD bit := by
    have hget := congrArg (fun byte => byte.getLsbD (bit - low)) hsame
    have hinside : bit - low < 8 := by omega
    have hplace : low + (bit - low) = bit := by omega
    simpa [BitVec.getLsbD_extractLsb', hinside, hplace] using hget
  by_cases hfirst : bit < 8
  · exact hbyte 0 h0 (Nat.zero_le _) (by omega)
  by_cases hsecond : bit < 16
  · exact hbyte 8 h1 (by omega) (by omega)
  by_cases hthird : bit < 24
  · exact hbyte 16 h2 (by omega) (by omega)
  · exact hbyte 24 h3 (by omega) (by omega)

theorem flatMap_wordBytes_injective {words words' : List (BitVec 32)}
    (h : words.flatMap wordBytes = words'.flatMap wordBytes) : words = words' := by
  induction words generalizing words' with
  | nil =>
    cases words' with
    | nil => rfl
    | cons word' rest' => cases h
  | cons word rest ih =>
    cases words' with
    | nil => cases h
    | cons word' rest' =>
      rw [flatMap_cons, flatMap_cons] at h
      obtain ⟨hword, hrest⟩ := append_inj h rfl
      rw [wordBytes_injective hword, ih hrest]

/-- The words are the same, or they are branches that differ in where they leave the code. -/
def DiffersOutside (size offset : Nat) (word word' : BitVec 32) : Prop :=
  word = word' ∨ leavesCode size offset word = true ∧ leavesCode size offset word' = true ∧
    branchOpcode word = branchOpcode word'

instance (size offset : Nat) (word word' : BitVec 32) :
    Decidable (DiffersOutside size offset word word') :=
  inferInstanceAs (Decidable (_ ∨ _))

/-- One of the words is a branch to itself, and the other one leaves the code. -/
def SelfBranchMeets (size offset : Nat) (word word' : BitVec 32) : Prop :=
  leavesCode size offset word = true ∧ word' = branchOpcode word ∨
    leavesCode size offset word' = true ∧ word = branchOpcode word'

section Words
variable {size offset : Nat} {word word' : BitVec 32}

/-- An opcode alone is a branch to itself, which does not leave the code. -/
theorem leavesCode_branchOpcode (hoffset : offset < size) :
    leavesCode size offset (branchOpcode word) = false := by
  have hzero : branchImm26 (branchOpcode word) = 0 := by
    have hand : branchOpcode word &&& 0x03ffffff#32 = 0#32 := by
      rw [branchOpcode, BitVec.and_assoc]
      exact BitVec.and_zero
    unfold branchImm26
    rw [hand]
    rfl
  have hinside : ¬ ((offset : Int) + 0 * 4 < 0 ∨ (size : Int) ≤ offset + 0 * 4) := by omega
  unfold leavesCode
  rw [hzero]
  simp only [Bool.and_eq_false_iff]
  refine Or.inr ?_
  rw [Bool.eq_false_iff]
  intro hout
  refine hinside ?_
  simpa using hout

theorem not_self_of_leaves (hoffset : offset < size) (h : leavesCode size offset word = true) :
    word ≠ branchOpcode word' := by
  rintro rfl
  exact Bool.false_ne_true ((leavesCode_branchOpcode hoffset).symm.trans h)

/-- Two words that leave the code are normalized alike where their opcodes agree, any other two only
where they are the same or one is a branch to itself. -/
theorem normalizeWord_eq_iff (hoffset : offset < size) :
    normalizeWord size offset word = normalizeWord size offset word' ↔
      DiffersOutside size offset word word' ∨ SelfBranchMeets size offset word word' := by
  unfold normalizeWord DiffersOutside SelfBranchMeets
  constructor
  · intro h
    split at h
    next hleaves =>
      split at h
      next hleaves' => exact Or.inl (Or.inr ⟨hleaves, hleaves', h⟩)
      next => exact Or.inr (Or.inl ⟨hleaves, h.symm⟩)
    next =>
      split at h
      next hleaves' => exact Or.inr (Or.inr ⟨hleaves', h⟩)
      next => exact Or.inl (Or.inl h)
  · rintro ((rfl | ⟨hleaves, hleaves', hopcode⟩) | (⟨hleaves, rfl⟩ | ⟨hleaves', rfl⟩))
    · rfl
    · rw [if_pos hleaves, if_pos hleaves', hopcode]
    · rw [if_pos hleaves, if_neg (by rw [leavesCode_branchOpcode hoffset]; exact Bool.false_ne_true)]
    · rw [if_pos hleaves', if_neg (by rw [leavesCode_branchOpcode hoffset]; exact Bool.false_ne_true)]

theorem DiffersOutside.not_meets (hoffset : offset < size)
    (h : DiffersOutside size offset word word') : ¬ SelfBranchMeets size offset word word' := by
  rintro (⟨hleaves, hself⟩ | ⟨hleaves', hself⟩)
  · obtain rfl | ⟨-, hleaves', -⟩ := h
    · exact not_self_of_leaves hoffset hleaves hself
    · exact not_self_of_leaves hoffset hleaves' hself
  · obtain rfl | ⟨hleaves, -, -⟩ := h
    · exact not_self_of_leaves hoffset hleaves' hself
    · exact not_self_of_leaves hoffset hleaves hself

end Words

/-- The relation holds between the words at each place of two codes. -/
def Everywhere (relation : Nat → Nat → BitVec 32 → BitVec 32 → Prop) (code other : Bytes) : Prop :=
  ∀ (index : Nat) word word', (codeWords code)[index]? = some word →
    (codeWords other)[index]? = some word' → relation code.length (4 * index) word word'

theorem normalizeDirectBranches_eq_some {code : Bytes} (h : code.length % 4 = 0) :
    normalizeDirectBranches code = some (((codeWords code).mapIdx fun index word =>
      normalizeWord code.length (4 * index) word).flatMap wordBytes) := by
  unfold normalizeDirectBranches guard
  rw [if_pos h]
  rfl

theorem codeWords_length_eq (code : Bytes) (h : code.length % 4 = 0) :
    4 * (codeWords code).length = code.length := by
  induction code using codeWords.induct with
  | case1 b0 b1 b2 b3 rest ih =>
    rw [codeWords]
    simp only [length_cons] at h ⊢
    have hrest := ih (by omega)
    omega
  | case2 code hshort =>
    match code, hshort with
    | [], _ => rfl
    | [_], _ => cases h
    | [_, _], _ => cases h
    | [_, _, _], _ => cases h
    | b0 :: b1 :: b2 :: b3 :: rest, hshort => exact absurd rfl (hshort b0 b1 b2 b3 rest)

/-- Two codes of one length are normalized alike exactly where each two words are. -/
theorem normalizeDirectBranches_eq_iff {code other : Bytes} (hcode : code.length % 4 = 0)
    (hother : other.length = code.length) :
    normalizeDirectBranches code = normalizeDirectBranches other ↔
      Everywhere (fun size offset word word' => DiffersOutside size offset word word' ∨
        SelfBranchMeets size offset word word') code other := by
  have hwords := codeWords_length_eq code hcode
  have hwords' := codeWords_length_eq other (by rw [hother, hcode])
  rw [normalizeDirectBranches_eq_some hcode,
    normalizeDirectBranches_eq_some (by rw [hother, hcode]), Option.some.injEq, hother]
  constructor
  · intro h index word word' hword hword'
    have hinside := (List.getElem?_eq_some_iff.mp hword).1
    refine (normalizeWord_eq_iff (by omega)).mp ?_
    have hget := congrArg (fun words => words[index]?) (flatMap_wordBytes_injective h)
    simp only [List.getElem?_mapIdx, hword, hword', Option.map_some, Option.some.injEq] at hget
    exact hget
  · intro h
    refine congrArg (List.flatMap wordBytes) (ext_getElem? fun index => ?_)
    rw [List.getElem?_mapIdx, List.getElem?_mapIdx]
    cases hword : (codeWords code)[index]? with
    | none =>
      have hbeyond := List.getElem?_eq_none_iff.mp hword
      rw [List.getElem?_eq_none (by omega)]
    | some word =>
      have hinside := (List.getElem?_eq_some_iff.mp hword).1
      obtain ⟨word', hword'⟩ : ∃ word', (codeWords other)[index]? = some word' :=
        ⟨_, List.getElem?_eq_getElem (by omega)⟩
      rw [hword', Option.map_some, Option.map_some]
      exact congrArg some ((normalizeWord_eq_iff (by omega)).mpr (h index word word' hword hword'))

/-- The normalization masks what it should, and nothing else. -/
def NormalizationExact (code other : Bytes) : Prop :=
  normalizeDirectBranches code = normalizeDirectBranches other ↔
    Everywhere DiffersOutside code other

/-- It does so where no branch to itself stands against a branch that leaves the code, unless the two
codes are told apart elsewhere. -/
theorem normalizationExact_iff {code other : Bytes} (hcode : code.length % 4 = 0)
    (hother : other.length = code.length) :
    NormalizationExact code other ↔
      (Everywhere (fun size offset word word' => DiffersOutside size offset word word' ∨
          SelfBranchMeets size offset word word') code other →
        Everywhere (fun size offset word word' => ¬ SelfBranchMeets size offset word word')
          code other) := by
  have hwords := codeWords_length_eq code hcode
  unfold NormalizationExact
  rw [normalizeDirectBranches_eq_iff hcode hother]
  constructor
  · intro h halike index word word' hword hword'
    have hinside := (List.getElem?_eq_some_iff.mp hword).1
    exact (h.mp halike index word word' hword hword').not_meets (by omega)
  · intro h
    refine ⟨fun halike index word word' hword hword' => ?_, fun hdiffers index word word' hword hword' =>
      Or.inl (hdiffers index word word' hword hword')⟩
    exact (halike index word word' hword hword').resolve_right
      (h halike index word word' hword hword')

/-! ## What is found -/

/-- The bytes at an address, in an executable segment of the file. -/
def InFile (data : Bytes) (segments : List LoadSegment) (count va : Nat) (bytes : Bytes) : Prop :=
  ∃ segment ∈ segments, segment.executable = true ∧
    ∃ place ∈ places count segment.fileOffset (segment.stop data),
      va = segment.address place ∧ bytes = slice data place count

/-- The bytes are the code as this mode takes them. -/
def Alike (mode : String) (code bytes : Bytes) : Prop :=
  if mode = "exact" ∨ mode = "exact+relation" then bytes = code
  else normalizeDirectBranches bytes = normalizeDirectBranches code

/-- The one aligned place of the file that is the code. -/
structure LocatedExactly (data : Bytes) (segments : List LoadSegment) (code : Bytes)
    (targetVa : Option Nat) (va : Nat) (bytes : Bytes) (mode : String) : Prop where
  aligned : va % 4 = 0
  inFile : InFile data segments code.length va bytes
  alike : Alike mode code bytes
  call : relationHolds targetVa bytes va = true
  only : ∀ va' bytes', va' % 4 = 0 → InFile data segments code.length va' bytes' →
    Alike mode code bytes' → relationHolds targetVa bytes' va' = true → va' = va

/-- Whatever is returned is located exactly. -/
def LocatorExact (data : Bytes) (segments : List LoadSegment) (code : Bytes)
    (targetVa : Option Nat) : Prop :=
  ∀ va bytes mode, findUniqueExecutableCode data segments code targetVa = .ok (va, bytes, mode) →
    LocatedExactly data segments code targetVa va bytes mode

/-- The address ranges of the segments are disjoint. -/
def SegmentsDisjoint (segments : List LoadSegment) : Prop :=
  segments.Pairwise fun first second =>
    first.virtualAddress + first.fileSize ≤ second.virtualAddress ∨
      second.virtualAddress + second.fileSize ≤ first.virtualAddress

section Places
variable (data : Bytes) (segments : List LoadSegment) (code : Bytes) (targetVa : Option Nat)

/-- The executable places, as far as a list of places of each segment goes. -/
def executablePlaces (within : LoadSegment → List Nat) (takes : Bytes → Bool) :
    List (LoadSegment × Nat) :=
  (segments.filter LoadSegment.executable).flatMap fun segment =>
    ((within segment).filter fun place =>
      takes (slice data place code.length) &&
        relationHolds targetVa (slice data place code.length) (segment.address place)).map
          (segment, ·)

/-- The places with the same bytes. -/
def exactPlaces : List (LoadSegment × Nat) :=
  executablePlaces data segments code targetVa
    (fun segment => places code.length segment.fileOffset (segment.stop data)) (· = code)

/-- The places, each four bytes from the last, with the same bytes after normalization. -/
def normalizedPlaces : List (LoadSegment × Nat) :=
  executablePlaces data segments code targetVa (steppedPlaces data code) fun bytes =>
    normalizeDirectBranches bytes = normalizeDirectBranches code

/-- The one place with the same bytes, where there is one, is aligned; and where there is none, the one
normalized place is, where there is one, and no other aligned place is normalized to the same. -/
structure AlignedPlaces : Prop where
  exact : ∀ segment place, exactPlaces data segments code targetVa = [(segment, place)] →
    (fileOffsetOf segments (segment.address place)).isSome = true →
      segment.address place % 4 = 0
  normalized : exactPlaces data segments code targetVa = [] →
    ∀ segment place, normalizedPlaces data segments code targetVa = [(segment, place)] →
      segment.address place % 4 = 0 ∧
        ∀ va bytes, va % 4 = 0 → InFile data segments code.length va bytes →
          normalizeDirectBranches bytes = normalizeDirectBranches code →
            relationHolds targetVa bytes va = true → va = segment.address place

end Places

/-! ## The loops and the places -/

section Located
variable {data : Bytes} {segments : List LoadSegment} {code : Bytes} {targetVa : Option Nat}

theorem LoadSegment.contains_address {segment : LoadSegment} {count place : Nat} (hcount : count ≠ 0)
    (hplace : place ∈ places count segment.fileOffset (segment.stop data)) :
    segment.contains (segment.address place) = true := by
  obtain ⟨hlow, hhigh⟩ := mem_places.mp hplace
  unfold LoadSegment.stop at hhigh
  unfold LoadSegment.contains LoadSegment.address
  simp only [Bool.and_eq_true, decide_eq_true_eq]
  omega

/-- An address is mapped back to the place that it came from. -/
theorem fileOffsetOf_address (hdisjoint : SegmentsDisjoint segments) {segment : LoadSegment}
    (hsegment : segment ∈ segments) {count place : Nat} (hcount : count ≠ 0)
    (hplace : place ∈ places count segment.fileOffset (segment.stop data)) :
    fileOffsetOf segments (segment.address place) = some place := by
  have hcontains := segment.contains_address hcount hplace
  obtain ⟨found, hfound⟩ : ∃ found, segments.find? (·.contains (segment.address place)) =
      some found := Option.isSome_iff_exists.mp
    (List.find?_isSome.mpr ⟨segment, hsegment, hcontains⟩)
  have hsame : found = segment := by
    by_contra hne
    have : Std.Symm fun first second : LoadSegment =>
        first.virtualAddress + first.fileSize ≤ second.virtualAddress ∨
          second.virtualAddress + second.fileSize ≤ first.virtualAddress := ⟨fun _ _ => Or.symm⟩
    have hapart := List.Pairwise.forall hdisjoint (mem_of_find?_eq_some hfound) hsegment hne
    have hcontains' := List.find?_some hfound
    unfold LoadSegment.contains at hcontains hcontains'
    simp only [Bool.and_eq_true, decide_eq_true_eq] at hcontains hcontains'
    omega
  obtain ⟨hlow, -⟩ := mem_places.mp hplace
  unfold fileOffsetOf
  rw [hfound, hsame, Option.map_some, LoadSegment.address]
  congr 1
  omega

/-- The loop and the filter find the places with the same bytes. -/
theorem filteredMatches_eq (hdisjoint : SegmentsDisjoint segments) :
    filteredMatches data segments code targetVa =
      (exactPlaces data segments code targetVa).map fun found => found.1.address found.2 := by
  have hfilter : filteredMatches data segments code targetVa =
      (exactMatches data segments code).filter fun entryVa => targetVa.isNone ||
        match fileOffsetOf segments entryVa with
        | none => false
        | some place => relationHolds targetVa (slice data place code.length) entryVa := by
    unfold filteredMatches
    cases targetVa with
    | none =>
      rw [if_neg (fun h => Bool.false_ne_true h.1)]
      exact (filter_true _).symm
    | some target =>
      split
      next => rfl
      next hempty =>
        have hnil : exactMatches data segments code = [] := by
          by_contra hsome
          exact hempty ⟨rfl, hsome⟩
        rw [hnil]
        rfl
  rw [hfilter, exactMatches, exactPlaces, executablePlaces, filter_flatMap, map_flatMap]
  refine flatMap_congr fun segment hsegment => ?_
  obtain ⟨hsegment, -⟩ := mem_filter.mp hsegment
  rw [findAll_eq, filter_map, filter_filter, map_map]
  refine congrArg (List.map _) (filter_congr fun place hplace => ?_)
  by_cases hsame : slice data place code.length = code
  · have hoccurs : occurs data code place = true := decide_eq_true hsame
    rw [hoccurs, hsame, decide_eq_true rfl, Bool.and_true, Bool.true_and]
    cases targetVa with
    | none => rfl
    | some target =>
      by_cases hcode : code = []
      · subst hcode
        show (match fileOffsetOf segments (segment.address place) with
          | none => false
          | some place => hasDirectCallTo (slice data place 0) (segment.address place) target) =
            hasDirectCallTo [] _ _
        cases fileOffsetOf segments (segment.address place) <;> rfl
      · have hcount : code.length ≠ 0 := fun h => hcode (length_eq_zero_iff.mp h)
        rw [Function.comp_apply, fileOffsetOf_address hdisjoint hsegment hcount hplace]
        dsimp only
        rw [hsame]
        rfl
  · have hoccurs : occurs data code place = false := decide_eq_false hsame
    rw [hoccurs, decide_eq_false hsame, Bool.and_false, Bool.false_and]

/-- The second loop finds the places that are normalized to the same. -/
theorem normalizedMatches_eq {normalizedCode : Bytes}
    (hcode : normalizeDirectBranches code = some normalizedCode) :
    (normalizedMatches data segments code normalizedCode).filter
        (fun found => relationHolds targetVa found.2 found.1) =
      (normalizedPlaces data segments code targetVa).map fun found =>
        (found.1.address found.2, slice data found.2 code.length) := by
  rw [normalizedMatches, normalizedPlaces, executablePlaces, filter_flatMap, map_flatMap]
  refine flatMap_congr fun segment _ => ?_
  rw [filter_map, filter_filter, map_map, hcode]
  refine congrArg (List.map _) (filter_congr fun place _ => ?_)
  exact Bool.and_comm _ _

theorem mem_executablePlaces {within : LoadSegment → List Nat} {takes : Bytes → Bool}
    {segment : LoadSegment} {place : Nat} :
    (segment, place) ∈ executablePlaces data segments code targetVa within takes ↔
      segment ∈ segments ∧ segment.executable = true ∧ place ∈ within segment ∧
        takes (slice data place code.length) = true ∧
          relationHolds targetVa (slice data place code.length) (segment.address place) = true := by
  unfold executablePlaces
  simp only [mem_flatMap, mem_filter, mem_map, Prod.mk.injEq, Bool.and_eq_true]
  constructor
  · rintro ⟨segment', ⟨hmem, hexecutable⟩, place', ⟨hplace, htakes, hcall⟩, rfl, rfl⟩
    exact ⟨hmem, hexecutable, hplace, htakes, hcall⟩
  · rintro ⟨hmem, hexecutable, hplace, htakes, hcall⟩
    exact ⟨segment, ⟨hmem, hexecutable⟩, place, ⟨hplace, htakes, hcall⟩, rfl, rfl⟩

/-- The one place with the same bytes is returned, and no other place can be meant. -/
theorem located_of_exact {segment : LoadSegment} {place : Nat} {mode : String}
    (hplaces : exactPlaces data segments code targetVa = [(segment, place)])
    (hmode : mode = "exact" ∨ mode = "exact+relation") :
    LocatedExactly data segments code targetVa (segment.address place) code mode ↔
      segment.address place % 4 = 0 := by
  have hmem : (segment, place) ∈ exactPlaces data segments code targetVa := by
    rw [hplaces]
    exact mem_singleton_self _
  obtain ⟨hsegment, hexecutable, hplace, htakes, hcall⟩ := mem_executablePlaces.mp hmem
  have hbytes : slice data place code.length = code := of_decide_eq_true htakes
  rw [hbytes] at hcall
  refine ⟨LocatedExactly.aligned, fun haligned => ⟨haligned, ?_, ?_, hcall, ?_⟩⟩
  · exact ⟨segment, hsegment, hexecutable, place, hplace, rfl, hbytes.symm⟩
  · rw [Alike, if_pos hmode]
  · rintro va' bytes' - ⟨segment', hsegment', hexecutable', place', hplace', rfl, hslice⟩ halike hcall'
    rw [Alike, if_pos hmode] at halike
    have hmem' : (segment', place') ∈ exactPlaces data segments code targetVa := by
      refine mem_executablePlaces.mpr ⟨hsegment', hexecutable', hplace', ?_, ?_⟩
      · exact decide_eq_true (hslice.symm.trans halike)
      · rw [← hslice]
        exact hcall'
    rw [hplaces, mem_singleton] at hmem'
    obtain ⟨rfl, rfl⟩ := Prod.mk.inj hmem'
    rfl

theorem located_of_normalized {segment : LoadSegment} {place : Nat} {mode : String}
    (hplaces : normalizedPlaces data segments code targetVa = [(segment, place)])
    (hmode : ¬ (mode = "exact" ∨ mode = "exact+relation")) :
    LocatedExactly data segments code targetVa (segment.address place)
        (slice data place code.length) mode ↔
      segment.address place % 4 = 0 ∧
        ∀ va bytes, va % 4 = 0 → InFile data segments code.length va bytes →
          normalizeDirectBranches bytes = normalizeDirectBranches code →
            relationHolds targetVa bytes va = true → va = segment.address place := by
  have hmem : (segment, place) ∈ normalizedPlaces data segments code targetVa := by
    rw [hplaces]
    exact mem_singleton_self _
  obtain ⟨hsegment, hexecutable, hplace, htakes, hcall⟩ := mem_executablePlaces.mp hmem
  constructor
  · rintro ⟨haligned, -, -, -, honly⟩
    refine ⟨haligned, fun va bytes halignedVa hfile halike => ?_⟩
    exact honly va bytes halignedVa hfile (by rwa [Alike, if_neg hmode])
  · rintro ⟨haligned, honly⟩
    refine ⟨haligned, ?_, ?_, hcall, ?_⟩
    · exact ⟨segment, hsegment, hexecutable, place, (mem_filter.mp hplace).1, rfl, rfl⟩
    · rw [Alike, if_neg hmode]
      exact of_decide_eq_true htakes
    · intro va bytes halignedVa hfile halike
      rw [Alike, if_neg hmode] at halike
      exact honly va bytes halignedVa hfile halike

/-- What the one exact place is mapped back to. -/
theorem slice_of_exact (hdisjoint : SegmentsDisjoint segments) {segment : LoadSegment}
    {place place' : Nat}
    (hplaces : exactPlaces data segments code targetVa = [(segment, place)])
    (hmapped : fileOffsetOf segments (segment.address place) = some place') :
    slice data place' code.length = code := by
  have hmem : (segment, place) ∈ exactPlaces data segments code targetVa := by
    rw [hplaces]
    exact mem_singleton_self _
  obtain ⟨hsegment, -, hplace, htakes, -⟩ := mem_executablePlaces.mp hmem
  have hbytes : slice data place code.length = code := of_decide_eq_true htakes
  by_cases hcode : code = []
  · subst hcode
    rfl
  · have hcount : code.length ≠ 0 := fun h => hcode (length_eq_zero_iff.mp h)
    rw [fileOffsetOf_address hdisjoint hsegment hcount hplace] at hmapped
    obtain rfl := Option.some.inj hmapped
    exact hbytes

/-- The locator is exact where what it can return is aligned. -/
theorem locatorExact_iff (hdisjoint : SegmentsDisjoint segments) (hcode : code.length % 4 = 0) :
    LocatorExact data segments code targetVa ↔ AlignedPlaces data segments code targetVa := by
  have hnormalize := normalizeDirectBranches_eq_some hcode
  have hfiltered := @filteredMatches_eq data segments code targetVa hdisjoint
  unfold LocatorExact findUniqueExecutableCode
  rw [hfiltered]
  cases hexact : exactPlaces data segments code targetVa with
  | nil =>
    rw [hnormalize, map_nil]
    dsimp only
    rw [normalizedMatches_eq hnormalize]
    have hmode : ¬ ((if targetVa.isSome then "branch-relocation-normalized+direct-call-relation"
        else "branch-relocation-normalized") = "exact" ∨
        (if targetVa.isSome then "branch-relocation-normalized+direct-call-relation"
        else "branch-relocation-normalized") = "exact+relation") := by
      split <;> decide
    constructor
    · intro h
      refine ⟨fun segment place hone => ?_, fun _ segment place hone => ?_⟩
      · rw [hexact] at hone
        cases hone
      · refine (located_of_normalized hone hmode).mp (h _ _ _ ?_)
        rw [hone]
        rfl
    · intro h va bytes mode hfound
      split at hfound
      next va' bytes' hone =>
        obtain ⟨⟨segment, place⟩, hplaces, hpair⟩ := map_eq_singleton_iff.mp hone
        obtain ⟨rfl, rfl⟩ := Prod.mk.inj hpair
        obtain ⟨rfl, hrest⟩ := Prod.mk.inj (Except.ok.inj hfound)
        obtain ⟨rfl, rfl⟩ := Prod.mk.inj hrest
        exact (located_of_normalized hplaces hmode).mpr (h.normalized hexact segment place hplaces)
      next => cases hfound
  | cons found rest =>
    obtain ⟨segment, place⟩ := found
    cases rest with
    | cons other rest =>
      constructor
      · intro
        refine ⟨fun segment place hone => ?_, fun hnone => ?_⟩
        · rw [hexact] at hone
          cases hone
        · rw [hexact] at hnone
          cases hnone
      · intro _ va bytes mode hfound
        cases hfound
    | nil =>
      have hmode : (if targetVa.isSome then "exact+relation" else "exact") = "exact" ∨
          (if targetVa.isSome then "exact+relation" else "exact") = "exact+relation" := by
        split
        · exact Or.inr rfl
        · exact Or.inl rfl
      rw [map_singleton]
      dsimp only
      cases hmapped : fileOffsetOf segments (segment.address place) with
      | none =>
        constructor
        · intro
          refine ⟨fun segment' place' hone hsome => ?_, fun hnone => ?_⟩
          · rw [hexact] at hone
            obtain ⟨rfl, rfl⟩ := Prod.mk.inj (List.cons.inj hone).1
            rw [hmapped] at hsome
            cases hsome
          · rw [hexact] at hnone
            cases hnone
        · intro _ va bytes mode hfound
          cases hfound
      | some place' =>
        simp only [slice_of_exact hdisjoint hexact hmapped]
        constructor
        · intro h
          refine ⟨fun segment' place' hone _ => ?_, fun hnone => ?_⟩
          · rw [hexact] at hone
            obtain ⟨rfl, rfl⟩ := Prod.mk.inj (List.cons.inj hone).1
            exact (located_of_exact hexact hmode).mp (h _ _ _ rfl)
          · rw [hexact] at hnone
            cases hnone
        · intro h va bytes mode hfound
          obtain ⟨rfl, hrest⟩ := Prod.mk.inj (Except.ok.inj hfound)
          obtain ⟨rfl, rfl⟩ := Prod.mk.inj hrest
          exact (located_of_exact hexact hmode).mpr
            (h.exact segment place hexact (by rw [hmapped]; rfl))

end Located

/-! ## The locator -/

/-- `RET`. -/
def retCode : Bytes := [0xc0, 0x03, 0x5f, 0xd6]

/-- One executable segment from the start of the file. -/
def textSegment (size : Nat) : LoadSegment := ⟨0, 0, size, 5⟩

end DartPlant
