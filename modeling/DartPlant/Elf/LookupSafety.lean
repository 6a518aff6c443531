import DartPlant.Elf.LookupMachine

/-! # Hostile tables

On machine words the lookups do what they do on numbers, whatever the tables say: no computation
wraps, every byte comes from a read that succeeded, and the chain entries that are visited are
bounded (`findSysvSymbol_meets`, `findGnuSymbol_meets`).  A symbol that is found is an entry of the
symbol table that has the name, is defined and is not zero.
-/

namespace DartPlant
open NoteFormat Metered LookupMachine Run

/-- A computation is fine when it does not wrap, and a read when the reader admits it. -/
def LookupEvent.Fine (reader : ElfVaReader) : LookupEvent → Prop
  | .computed width exact => 0 ≤ exact ∧ exact < 2 ^ width
  | .read va size => (reader.read va size).isSome = true
  | .visited => True

def LookupEvent.visits : LookupEvent → Nat
  | .visited => 1
  | _ => 0

/-- The run comes out as the value, after so many visits at most, and all of its events are fine. -/
abbrev LookupMeets {α β : Type} (reader : ElfVaReader) (finish : Option α → β) (budget : Nat)
    (run : LookupRun α) (value : β) : Prop :=
  run.Meets (LookupEvent.Fine reader) LookupEvent.visits finish budget value

/-! ## Words -/

section Words
variable {reader : ElfVaReader} {base offset left right index stride total : Nat}

theorem computed_meets {width : Nat} {exact : Int} (hlow : 0 ≤ exact) (hhigh : exact < 2 ^ width) :
    LookupMeets reader id 0 (emit (.computed width exact)) (some ()) := by
  have hfine : (LookupEvent.computed width exact).Fine reader := ⟨hlow, hhigh⟩
  exact meets_emit hfine

theorem visited_meets : LookupMeets reader id 1 (emit .visited) (some ()) := by
  have hfine : LookupEvent.visited.Fine reader := trivial
  have hmeets : LookupMeets reader id (LookupEvent.visits .visited) (emit .visited) (some ()) :=
    meets_emit hfine
  exact hmeets

theorem compute_meets {width : Nat} {exact : Int} (hlow : 0 ≤ exact) (hhigh : exact < 2 ^ width) :
    LookupMeets reader id 0 (compute width exact) (some exact.toNat) := by
  refine (computed_meets hlow hhigh).bind_free nofun fun _ _ => meets_pure ?_
  rw [Int.emod_eq_of_lt hlow hhigh]
  rfl

theorem check_meets {condition : Prop} [Decidable condition] :
    LookupMeets reader id 0 (check condition) (guard condition) := by
  unfold check guard
  split
  · exact meets_pure rfl
  · exact meets_fail rfl

theorem require_meets {α : Type} (wanted : Option α) :
    LookupMeets reader id 0 (require wanted) wanted := by
  cases wanted with
  | none => exact meets_fail rfl
  | some value => exact meets_pure rfl

theorem checkedMul_lt (h : checkedMul left right = some total) : total < 2 ^ 64 := by
  rw [checkedMul] at h
  split at h
  · cases h
  next hfits =>
    obtain rfl := Option.some.inj h
    rcases Nat.eq_zero_or_pos left with rfl | hpos
    · rw [Nat.zero_mul]
      exact Nat.two_pow_pos 64
    · have hle : right ≤ (2 ^ 64 - 1) / left := by
        by_contra hgt
        exact hfits ⟨Nat.ne_of_gt hpos, Nat.lt_of_not_le hgt⟩
      rw [Nat.le_div_iff_mul_le hpos, Nat.mul_comm] at hle
      omega

theorem eq_of_checkedAddVa (h : checkedAddVa base offset = some total) : total = base + offset := by
  rw [checkedAddVa] at h
  split at h
  · cases h
  · exact (Option.some.inj h).symm

theorem eq_of_checkedMul (h : checkedMul left right = some total) : total = left * right := by
  rw [checkedMul] at h
  split at h
  · cases h
  · exact (Option.some.inj h).symm

theorem eq_of_checkedMulAddVa (h : checkedMulAddVa base index stride = some total) :
    total = base + index * stride := by
  obtain ⟨offset, hoffset, htotal⟩ := Option.bind_eq_some_iff.mp h
  rw [eq_of_checkedAddVa htotal, eq_of_checkedMul hoffset]

theorem checkedAddVa_meets (hoffset : offset < 2 ^ 64) :
    LookupMeets reader id 0 (LookupMachine.checkedAddVa base offset) (checkedAddVa base offset) := by
  refine (compute_meets (by omega) (by omega)).bind_free nofun fun limit hlimit => ?_
  obtain rfl := Option.some.inj hlimit
  have hvalue : ((2 : Int) ^ 64 - 1 - offset).toNat = 2 ^ 64 - 1 - offset := by omega
  rw [hvalue, checkedAddVa]
  split
  · exact meets_fail rfl
  · exact compute_meets (by omega) (by omega)

theorem checkedMul_meets :
    LookupMeets reader id 0 (LookupMachine.checkedMul left right) (checkedMul left right) := by
  cases hexact : checkedMul left right with
  | none =>
    rw [checkedMul] at hexact
    split at hexact
    next hover =>
      rw [LookupMachine.checkedMul, if_pos hover]
      exact meets_fail rfl
    · cases hexact
  | some total =>
    have hlt := checkedMul_lt hexact
    rw [checkedMul] at hexact
    split at hexact
    · cases hexact
    next hfits =>
      obtain rfl := Option.some.inj hexact
      rw [LookupMachine.checkedMul, if_neg hfits]
      exact compute_meets (Int.natCast_nonneg (left * right)) (by exact_mod_cast hlt)

theorem checkedMulAddVa_meets :
    LookupMeets reader id 0 (LookupMachine.checkedMulAddVa base index stride)
      (checkedMulAddVa base index stride) :=
  Meets.seq checkedMul_meets fun _ hoffset => checkedAddVa_meets (checkedMul_lt hoffset)

theorem read_meets {va size : Nat} :
    LookupMeets reader id 0 (LookupMachine.read reader va size) (reader.read va size) := by
  rw [LookupMachine.read]
  cases hread : reader.read va size with
  | none => exact meets_fail rfl
  | some bytes =>
    have hfine : (LookupEvent.read va size).Fine reader := by
      change (reader.read va size).isSome = true
      rw [hread]
      rfl
    exact (meets_emit hfine).bind_free nofun fun _ _ => meets_pure rfl

theorem readWord_meets {va : Nat} :
    LookupMeets reader id 0 (LookupMachine.readWord reader va) (readWord reader va) := by
  rw [readWord, Option.map_eq_bind]
  exact Meets.seq read_meets fun _ _ => meets_pure rfl

theorem readXword_meets {va : Nat} :
    LookupMeets reader id 0 (LookupMachine.readXword reader va) (readXword reader va) := by
  rw [readXword, Option.map_eq_bind]
  exact Meets.seq read_meets fun _ _ => meets_pure rfl

theorem readSymbol_meets {va : Nat} :
    LookupMeets reader id 0 (LookupMachine.readSymbol reader va) (readSymbol reader va) := by
  rw [readSymbol, Option.map_eq_bind]
  exact Meets.seq read_meets fun _ _ => meets_pure rfl

end Words

/-- The fields of the view and what the reader says is readable are 64-bit words. -/
structure LookupWords (reader : ElfVaReader) (view : ElfDynamicView) : Prop where
  strtabVa : view.strtabVa < 2 ^ 64
  strtabSize : view.strtabSize < 2 ^ 64
  readableBytes : ∀ va remaining, reader.readableBytes va = some remaining → remaining < 2 ^ 64

/-- A lookup that goes on. -/
def ElfDynamicLookupResult.settled : ElfDynamicLookupResult → Option ElfDynamicLookupResult
  | .malformed => none
  | result => some result

/-- A lookup that fails is malformed. -/
abbrev orMalformed (result : Option ElfDynamicLookupResult) : ElfDynamicLookupResult :=
  result.getD .malformed

/-! ## Symbols -/

section Symbols
variable {reader : ElfVaReader} {view : ElfDynamicView} {name : List Byte} {index : Nat}
  {candidate : Option ElfDynamicSymbol}

/-- The loop over the bytes of a name; the induction is on how many are left. -/
theorem readSymbolNameFrom_meets {start : Nat} {remaining : Fin (2 ^ 64)} (left : Nat)
    (hleft : remaining.val - index = left) :
    LookupMeets reader id 0 (LookupMachine.readSymbolNameFrom reader start remaining index)
      (readSymbolNameFrom reader start left index) := by
  induction left generalizing index with
  | zero =>
    rw [LookupMachine.readSymbolNameFrom, if_neg (by omega)]
    exact meets_fail rfl
  | succ left ih =>
    have hwidth := remaining.isLt
    have hmod : (index + 1) % 2 ^ 64 = index + 1 := Nat.mod_eq_of_lt (by omega)
    rw [LookupMachine.readSymbolNameFrom, if_pos (by omega), hmod, readSymbolNameFrom]
    refine (checkedAddVa_meets (by omega)).bind_free (fun hnone => ?_) fun entryVa hentry => ?_
    · rw [hnone]
      rfl
    rw [hentry, Option.bind_some, readByte]
    refine read_meets.bind_free (fun hnone => ?_) fun bytes hbytes => ?_
    · rw [hnone]
      rfl
    rw [hbytes, Option.map_some]
    dsimp only
    split
    · exact meets_pure rfl
    · refine (computed_meets (by omega) (by omega)).bind_free nofun fun _ _ => ?_
      rw [Option.map_eq_bind]
      exact Meets.seq (ih (by omega)) fun _ _ => meets_pure rfl

variable (hwords : LookupWords reader view)
include hwords

theorem readSymbolName_meets {symbol : Elf64Sym} (hname : symbol.stName < 2 ^ 64) :
    LookupMeets reader id 0 (LookupMachine.readSymbolName reader view symbol)
      (readSymbolName reader view symbol) := by
  have hsize := hwords.strtabSize
  rw [LookupMachine.readSymbolName, readSymbolName]
  by_cases hinside : symbol.stName < view.strtabSize
  · rw [if_neg (Nat.not_le.mpr hinside)]
    refine check_meets.bind_free (fun hnone => ?_) fun _ _ => ?_
    · rw [guard, if_pos hinside] at hnone
      cases hnone
    refine Meets.seq (checkedAddVa_meets hname) fun start _ => ?_
    refine (compute_meets (by omega) (by omega)).bind_free nofun fun remaining hremaining => ?_
    obtain rfl := Option.some.inj hremaining
    apply readSymbolNameFrom_meets
    have hvalue : ((view.strtabSize : Int) - symbol.stName).toNat =
        view.strtabSize - symbol.stName := by omega
    rw [hvalue, Fin.val_ofNat, Nat.mod_eq_of_lt (by omega), Nat.sub_zero]
  · rw [if_pos (Nat.le_of_not_lt hinside), check, if_neg hinside]
    exact meets_fail rfl

omit hwords in
theorem stName_lt {va : Nat} {symbol : Elf64Sym} (h : readSymbol reader va = some symbol) :
    symbol.stName < 2 ^ 64 := by
  obtain ⟨bytes, -, rfl⟩ := Option.map_eq_some_iff.mp h
  have hword : word bytes 0 < 2 ^ 32 := word_lt
  exact Nat.lt_trans hword (by decide)

theorem matchSymbol_meets :
    LookupMeets reader id 0 (LookupMachine.matchSymbol reader view index name)
      (matchSymbol reader view index name).settled := by
  rw [LookupMachine.matchSymbol, matchSymbol]
  by_cases hentry : view.symbolEntrySize = sizeofElf64Sym
  · rw [if_neg (not_not.mpr hentry)]
    refine check_meets.bind_free (fun hnone => ?_) fun _ _ => ?_
    · rw [guard, if_pos hentry] at hnone
      cases hnone
    refine checkedMulAddVa_meets.bind_free (fun hnone => ?_) fun symbolVa hsymbolVa => ?_
    · rw [hnone]
      rfl
    rw [hsymbolVa, Option.bind_some]
    refine readSymbol_meets.bind_free (fun hnone => ?_) fun symbol hsymbol => ?_
    · rw [hnone]
      rfl
    rw [hsymbol]
    dsimp only
    refine (readSymbolName_meets hwords (stName_lt hsymbol)).bind_free (fun hnone => ?_)
      fun actual hactual => ?_
    · rw [hnone]
      rfl
    rw [hactual]
    dsimp only
    split
    · exact meets_pure rfl
    by_cases hdefined : symbol.stShndx = shnUndef ∨ symbol.stValue = 0
    · rw [if_pos hdefined, check, if_neg (by omega)]
      exact meets_fail rfl
    · rw [if_neg hdefined, check, if_pos (by omega)]
      exact meets_pure rfl
  · rw [if_pos hentry, check, if_neg hentry]
    exact meets_fail rfl

theorem considerSymbol_meets :
    LookupMeets reader id 0 (LookupMachine.considerSymbol reader view name index candidate)
      (considerSymbol reader view name index candidate) := by
  rw [LookupMachine.considerSymbol, considerSymbol]
  refine (matchSymbol_meets hwords).bind_free (fun hnone => ?_) fun result hresult => ?_
  · cases hmatch : matchSymbol reader view index name <;> rw [hmatch] at hnone
    case malformed => rfl
    all_goals cases hnone
  · cases hmatch : matchSymbol reader view index name with
    | found symbol =>
      rw [hmatch] at hresult
      obtain rfl := Option.some.inj hresult
      dsimp only
      rw [Option.map_eq_bind]
      exact Meets.seq (require_meets _) fun _ _ => meets_pure rfl
    | notFound =>
      rw [hmatch] at hresult
      obtain rfl := Option.some.inj hresult
      exact meets_pure rfl
    | unavailable =>
      rw [hmatch] at hresult
      obtain rfl := Option.some.inj hresult
      exact meets_pure rfl
    | malformed =>
      rw [hmatch] at hresult
      cases hresult

theorem considerHashed_meets {chainHash : Nat} : LookupMeets reader id 0
      (considerHashed reader view name chainHash index candidate)
      (if chainHash ||| 1 = (gnuHash name).toNat ||| 1 then
        considerSymbol reader view name index candidate else some candidate) := by
  rw [considerHashed]
  split
  · exact considerSymbol_meets hwords
  · exact meets_pure rfl

end Symbols

/-! ## Loops -/

section Loops
variable {reader : ElfVaReader} {view : ElfDynamicView} {name : List Byte} {chainsVa : Nat}

/-- The loop visits no more entries than are left of the chain table. -/
theorem findSysvSymbolFrom_meets (hwords : LookupWords reader view) {chainCount : Fin (2 ^ 32)}
    {count visited symbolIndex : Nat} {candidate : Option ElfDynamicSymbol}
    (hcount : chainCount.val = count) (left : Nat) (hleft : count - visited = left) :
    LookupMeets reader orMalformed left
      (LookupMachine.findSysvSymbolFrom reader view name chainsVa chainCount visited symbolIndex
        candidate)
      (findSysvSymbolFrom reader view name chainsVa count left symbolIndex candidate) := by
  subst hcount
  induction left generalizing visited symbolIndex candidate with
  | zero =>
    rw [LookupMachine.findSysvSymbolFrom, findSysvSymbolFrom.eq_def]
    split
    · exact meets_pure rfl
    · rw [if_pos (Or.inr (by omega))]
      exact meets_fail rfl
  | succ left ih =>
    have hwidth := chainCount.isLt
    have hmod : (visited + 1) % 2 ^ 64 = visited + 1 := Nat.mod_eq_of_lt (by omega)
    rw [LookupMachine.findSysvSymbolFrom, findSysvSymbolFrom.eq_def, hmod]
    split
    · exact (meets_pure rfl).mono (Nat.zero_le _)
    dsimp only
    by_cases hinside : symbolIndex ≥ chainCount.val
    · rw [if_pos (Or.inl hinside), if_pos hinside]
      exact (meets_fail rfl).mono (Nat.zero_le _)
    rw [if_neg (by omega), if_neg hinside, Nat.add_comm left 1]
    refine visited_meets.bind nofun fun _ _ => ?_
    refine (considerSymbol_meets hwords).bind_free (fun hnone => ?_) fun next hnext => ?_
    · rw [hnone]
      rfl
    rw [hnext]
    dsimp only
    refine checkedMulAddVa_meets.bind_free (fun hnone => ?_) fun chainVa hchainVa => ?_
    · rw [hnone]
      rfl
    rw [hchainVa, Option.bind_some]
    refine readWord_meets.bind_free (fun hnone => ?_) fun following hfollowing => ?_
    · rw [hnone]
      rfl
    rw [hfollowing]
    dsimp only
    by_cases hself : following = symbolIndex
    · rw [if_pos hself, check, if_neg (not_not.mpr hself)]
      exact (meets_fail rfl).bind_free (fun _ => rfl) nofun |>.mono (Nat.zero_le _)
    · rw [if_neg hself, check, if_pos hself]
      refine (meets_pure rfl).bind_free nofun fun _ _ => ?_
      exact (computed_meets (by omega) (by omega)).bind_free nofun fun _ _ => ih (by omega)

/-- The loop visits no more entries than are left of the readable chain. -/
theorem findGnuSymbolFrom_meets (hwords : LookupWords reader view) {maxChainEntries : Fin (2 ^ 64)}
    {chainIndex symbolIndex : Nat} {candidate : Option ElfDynamicSymbol} (left : Nat)
    (hleft : maxChainEntries.val - chainIndex = left) (hsymbol : symbolIndex < 2 ^ 32) :
    LookupMeets reader orMalformed left
      (LookupMachine.findGnuSymbolFrom reader view name chainsVa maxChainEntries chainIndex
        symbolIndex candidate)
      (findGnuSymbolFrom reader view name chainsVa left chainIndex symbolIndex candidate) := by
  induction left generalizing chainIndex symbolIndex candidate with
  | zero =>
    rw [LookupMachine.findGnuSymbolFrom, if_neg (by omega)]
    exact meets_fail rfl
  | succ left ih =>
    have hwidth := maxChainEntries.isLt
    have hmod : (chainIndex + 1) % 2 ^ 64 = chainIndex + 1 := Nat.mod_eq_of_lt (by omega)
    rw [LookupMachine.findGnuSymbolFrom, if_pos (by omega), findGnuSymbolFrom, hmod,
      Nat.add_comm left 1]
    refine visited_meets.bind nofun fun _ _ => ?_
    refine checkedMulAddVa_meets.bind_free (fun hnone => ?_) fun chainVa hchainVa => ?_
    · rw [hnone]
      rfl
    rw [hchainVa, Option.bind_some]
    refine readWord_meets.bind_free (fun hnone => ?_) fun chainHash hchainHash => ?_
    · rw [hnone]
      rfl
    rw [hchainHash]
    dsimp only
    refine (considerHashed_meets hwords).bind_free (fun hnone => ?_) fun next hnext => ?_
    · rw [hnone]
      rfl
    rw [hnext]
    dsimp only
    split
    · exact (meets_pure rfl).mono (Nat.zero_le _)
    by_cases hlast : symbolIndex = 2 ^ 32 - 1
    · rw [if_pos hlast, check, if_neg (not_not.mpr hlast)]
      exact (meets_fail rfl).bind_free (fun _ => rfl) nofun |>.mono (Nat.zero_le _)
    · rw [if_neg hlast, check, if_pos hlast]
      refine (meets_pure rfl).bind_free nofun fun _ _ => ?_
      refine (compute_meets (by omega) (by omega)).bind_free nofun fun following hfollowing => ?_
      obtain rfl := Option.some.inj hfollowing
      refine (computed_meets (by omega) (by omega)).bind_free nofun fun _ _ => ?_
      have hvalue : ((symbolIndex : Int) + 1).toNat = symbolIndex + 1 := by omega
      rw [hvalue]
      exact ih (by omega) (by omega)

end Loops

/-! ## Lookups -/

/-- `nchain`, when the header of the System V table is readable. -/
def sysvChainCount (reader : ElfVaReader) (view : ElfDynamicView) : Nat :=
  ((view.sysvHashVa.bind fun hashVa => reader.read hashVa 8).map fun header => word header 4).getD 0

/-- The chain entries that are readable behind the header, the filter and the buckets of the GNU
table. -/
def gnuChainLength (reader : ElfVaReader) (view : ElfDynamicView) : Nat :=
  (view.gnuHashVa.bind fun hashVa => (reader.read hashVa 16).bind fun header =>
    reader.readableBytes
      (hashVa + 16 + word header 8 * 8 + word header 0 * 4)).getD 0 / 4

section Lookups
variable {reader : ElfVaReader} {view : ElfDynamicView}

theorem readWord_lt {va value : Nat} (h : readWord reader va = some value) : value < 2 ^ 32 := by
  obtain ⟨bytes, -, rfl⟩ := Option.map_eq_some_iff.mp h
  exact word_lt

theorem findSysvSymbol_meets (hwords : LookupWords reader view) (name : List Byte) :
    LookupMeets reader orMalformed (sysvChainCount reader view)
      (LookupMachine.findSysvSymbol reader view name) (findSysvSymbol reader view name) := by
  unfold LookupMachine.findSysvSymbol findSysvSymbol
  refine Meets.seq (require_meets _) fun hashVa hhashVa => ?_
  refine Meets.seq read_meets fun header hheader => ?_
  have hcount : sysvChainCount reader view = word header 4 := by
    rw [sysvChainCount, hhashVa, Option.bind_some, hheader]
    rfl
  have hwidth : word header 4 < 2 ^ 32 := word_lt
  refine Meets.seq check_meets fun _ _ => ?_
  refine Meets.seq check_meets fun _ _ => ?_
  refine Meets.seq (checkedAddVa_meets (by decide)) fun bucketsVa _ => ?_
  refine Meets.seq checkedMul_meets fun bucketsSize hbucketsSize => ?_
  refine Meets.seq checkedMul_meets fun chainsSize hchainsSize => ?_
  refine Meets.seq (checkedAddVa_meets (checkedMul_lt hbucketsSize)) fun fixedSize _ => ?_
  refine Meets.seq (checkedAddVa_meets (checkedMul_lt hchainsSize)) fun hashTableSize _ => ?_
  refine Meets.seq checkedMul_meets fun dynsymSize _ => ?_
  refine Meets.seq check_meets fun _ _ => ?_
  refine Meets.seq check_meets fun _ _ => ?_
  refine Meets.seq checkedMulAddVa_meets fun bucketVa _ => ?_
  refine Meets.seq readWord_meets fun symbolIndex _ => ?_
  refine Meets.seq (checkedAddVa_meets (checkedMul_lt hbucketsSize)) fun chainsVa _ => ?_
  rw [hcount]
  exact findSysvSymbolFrom_meets hwords (Nat.mod_eq_of_lt hwidth) _ (Nat.sub_zero _)

theorem findGnuSymbol_meets (hwords : LookupWords reader view) (name : List Byte) :
    LookupMeets reader orMalformed (gnuChainLength reader view)
      (LookupMachine.findGnuSymbol reader view name) (findGnuSymbol reader view name) := by
  unfold LookupMachine.findGnuSymbol findGnuSymbol
  refine Meets.seq (require_meets _) fun hashVa hhashVa => ?_
  refine Meets.seq read_meets fun header hheader => ?_
  have hwidth : word header 8 < 2 ^ 32 := word_lt
  dsimp only
  by_cases hheaderOk : word header 0 ≠ 0 ∧ word header 8 ≠ 0 ∧ word header 12 < 32
  swap
  · rw [guard, if_neg fun h => hheaderOk ⟨h.1, h.2.1, h.2.2.1⟩, check,
      if_neg hheaderOk]
    exact (meets_fail rfl).bind_free (fun _ => rfl) nofun |>.mono (Nat.zero_le _)
  rw [check, if_pos hheaderOk]
  refine (meets_pure rfl).bind_free nofun fun _ _ => ?_
  refine (compute_meets (by omega) (by omega)).bind_free nofun fun bloomLast hbloomLast => ?_
  have hlast : bloomLast = word header 8 - 1 := by
    have hvalue := Option.some.inj hbloomLast
    omega
  by_cases hpower : word header 8 &&& (word header 8 - 1) = 0
  swap
  · rw [guard, if_neg fun h => hpower h.2.2.2, hlast, check, if_neg hpower]
    exact (meets_fail rfl).bind_free (fun _ => rfl) nofun |>.mono (Nat.zero_le _)
  rw [guard, if_pos ⟨hheaderOk.1, hheaderOk.2.1, hheaderOk.2.2, hpower⟩, hlast,
    check, if_pos hpower]
  refine Meets.seq (meets_pure rfl) fun _ _ => ?_
  refine Meets.seq (checkedAddVa_meets (by decide)) fun bloomBase hbloomBase => ?_
  refine Meets.seq checkedMul_meets fun bloomSize hbloomSize => ?_
  refine Meets.seq (checkedAddVa_meets (checkedMul_lt hbloomSize)) fun bucketsVa hbucketsVa => ?_
  refine Meets.seq checkedMul_meets fun bucketsSize hbucketsSize => ?_
  refine Meets.seq (checkedAddVa_meets (checkedMul_lt hbloomSize)) fun headerSize _ => ?_
  refine Meets.seq (checkedAddVa_meets (checkedMul_lt hbucketsSize)) fun fixedTableSize _ => ?_
  refine Meets.seq check_meets fun _ _ => ?_
  refine Meets.seq checkedMulAddVa_meets fun bloomVa _ => ?_
  refine Meets.seq readXword_meets fun bloom _ => ?_
  split
  · exact (meets_pure rfl).mono (Nat.zero_le _)
  refine Meets.seq checkedMulAddVa_meets fun bucketVa _ => ?_
  refine Meets.seq readWord_meets fun symbolIndex hsymbolIndex => ?_
  split
  · exact (meets_pure rfl).mono (Nat.zero_le _)
  have hsymbolWidth := readWord_lt hsymbolIndex
  by_cases hoffset : word header 4 ≤ symbolIndex
  swap
  · rw [guard, if_neg hoffset, check, if_neg hoffset]
    exact (meets_fail rfl).bind_free (fun _ => rfl) nofun |>.mono (Nat.zero_le _)
  rw [guard, if_pos hoffset, check, if_pos hoffset]
  refine Meets.seq (meets_pure rfl) fun _ _ => ?_
  refine Meets.seq (checkedAddVa_meets (checkedMul_lt hbucketsSize)) fun chainsVa hchainsVa => ?_
  refine Meets.seq (require_meets _) fun remaining hremaining => ?_
  refine (compute_meets (by omega) (by omega)).bind_free nofun fun chainIndex hchainIndex => ?_
  have hindex : chainIndex = symbolIndex - word header 4 := by
    have hvalue := Option.some.inj hchainIndex
    omega
  have hlength : gnuChainLength reader view = remaining / 4 := by
    rw [eq_of_checkedAddVa hchainsVa, eq_of_checkedAddVa hbucketsVa, eq_of_checkedAddVa hbloomBase,
      eq_of_checkedMul hbloomSize, eq_of_checkedMul hbucketsSize] at hremaining
    rw [gnuChainLength, hhashVa, Option.bind_some, hheader, Option.bind_some, hremaining]
    rfl
  have hremainingWidth := hwords.readableBytes _ _ hremaining
  have hentries : (Fin.ofNat (2 ^ 64) (remaining / 4)).val = remaining / 4 :=
    Nat.mod_eq_of_lt (by omega)
  rw [hindex, hlength]
  refine Meets.mono (findGnuSymbolFrom_meets hwords _ ?_ hsymbolWidth) (Nat.sub_le _ _)
  rw [hentries]

end Lookups

/-! ## What is found -/

/-- The string table of the view has the name at the offset, with a zero behind it. -/
structure NameAt (reader : ElfVaReader) (view : ElfDynamicView) (offset : Nat)
    (name : List Byte) : Prop where
  inside : offset + name.length < view.strtabSize
  byte : ∀ index (hindex : index < name.length),
    readByte reader (view.strtabVa + offset + index) = some name[index] ∧ name[index] ≠ 0
  stop : readByte reader (view.strtabVa + offset + name.length) = some 0

/-- The symbol is an entry of the symbol table that has the name, is defined and is not zero. -/
def BackedSymbol (reader : ElfVaReader) (view : ElfDynamicView) (name : List Byte)
    (symbol : ElfDynamicSymbol) : Prop :=
  ∃ index entry, readSymbol reader (view.symtabVa + index * sizeofElf64Sym) = some entry ∧
    NameAt reader view entry.stName name ∧ entry.stShndx ≠ shnUndef ∧ entry.stValue ≠ 0 ∧
    symbol = {
      value := entry.stValue
      size := entry.stSize
      info := entry.stInfo
      other := entry.stOther
      sectionIndex := entry.stShndx }

section Found
variable {reader : ElfVaReader} {view : ElfDynamicView} {name : List Byte}
  {symbol : ElfDynamicSymbol} {candidate : Option ElfDynamicSymbol} {index : Nat}

/-- The bytes that the loop over a name has read. -/
theorem readSymbolNameFrom_sound {start left : Nat}
    (h : readSymbolNameFrom reader start left index = some name) :
    name.length < left ∧
      (∀ place (hplace : place < name.length),
        readByte reader (start + index + place) = some name[place] ∧ name[place] ≠ 0) ∧
      readByte reader (start + index + name.length) = some 0 := by
  induction left generalizing index name with
  | zero => cases h
  | succ left ih =>
    rw [readSymbolNameFrom] at h
    cases hbyte : (checkedAddVa start index).bind (readByte reader) with
    | none => rw [hbyte] at h; cases h
    | some value =>
      obtain ⟨entryVa, hentry, hvalue⟩ := Option.bind_eq_some_iff.mp hbyte
      obtain rfl := eq_of_checkedAddVa hentry
      rw [hbyte] at h
      dsimp only at h
      split at h
      next hzero =>
        obtain rfl := Option.some.inj h
        exact ⟨Nat.succ_pos left, nofun, by rw [List.length_nil, Nat.add_zero, hvalue, hzero]⟩
      next hnonzero =>
        obtain ⟨rest, hrest, rfl⟩ := Option.map_eq_some_iff.mp h
        obtain ⟨hlength, hbytes, hstop⟩ := ih hrest
        refine ⟨Nat.succ_lt_succ hlength, fun place hplace => ?_, ?_⟩
        · cases place with
          | zero => exact ⟨hvalue, hnonzero⟩
          | succ place =>
            have hrest := hbytes place (Nat.lt_of_succ_lt_succ hplace)
            rwa [Nat.add_assoc start, Nat.add_assoc index, Nat.add_comm 1,
              ← Nat.add_assoc start] at hrest
        · rwa [Nat.add_assoc start, Nat.add_assoc index, Nat.add_comm 1,
            ← Nat.add_assoc start] at hstop

theorem readSymbolName_sound {entry : Elf64Sym}
    (h : readSymbolName reader view entry = some name) :
    NameAt reader view entry.stName name := by
  rw [readSymbolName] at h
  split at h
  · cases h
  next hinside =>
    obtain ⟨start, hstart, hname⟩ := Option.bind_eq_some_iff.mp h
    obtain rfl := eq_of_checkedAddVa hstart
    obtain ⟨hlength, hbytes, hstop⟩ := readSymbolNameFrom_sound hname
    exact ⟨by omega, hbytes, hstop⟩

theorem matchSymbol_sound (h : matchSymbol reader view index name = .found symbol) :
    BackedSymbol reader view name symbol := by
  rw [matchSymbol] at h
  split at h
  · cases h
  next hentrySize =>
    cases hread : (checkedMulAddVa view.symtabVa index view.symbolEntrySize).bind
        (readSymbol reader) with
    | none => rw [hread] at h; cases h
    | some entry =>
      obtain ⟨symbolVa, hsymbolVa, hentry⟩ := Option.bind_eq_some_iff.mp hread
      obtain rfl := eq_of_checkedMulAddVa hsymbolVa
      rw [not_not.mp hentrySize] at hentry
      rw [hread] at h
      dsimp only at h
      cases hname : readSymbolName reader view entry with
      | none => rw [hname] at h; cases h
      | some actual =>
        rw [hname] at h
        dsimp only at h
        split at h
        · cases h
        next hactual =>
          obtain rfl := not_not.mp hactual
          split at h
          · cases h
          next hdefined =>
            obtain ⟨hshndx, hvalue⟩ := not_or.mp hdefined
            exact ⟨index, entry, hentry, readSymbolName_sound hname, hshndx, hvalue,
              (ElfDynamicLookupResult.found.inj h).symm⟩

/-- A candidate of the loops is backed. -/
def BackedCandidate (reader : ElfVaReader) (view : ElfDynamicView) (name : List Byte)
    (candidate : Option ElfDynamicSymbol) : Prop :=
  ∀ symbol ∈ candidate, BackedSymbol reader view name symbol

theorem backedCandidate_none : BackedCandidate reader view name none := by
  intro symbol hsymbol
  cases hsymbol

theorem considerSymbol_sound {next : Option ElfDynamicSymbol}
    (hcandidate : BackedCandidate reader view name candidate)
    (h : considerSymbol reader view name index candidate = some next) :
    BackedCandidate reader view name next := by
  rw [considerSymbol] at h
  cases hmatch : matchSymbol reader view index name with
  | found symbol =>
    rw [hmatch] at h
    obtain ⟨remembered, hremembered, rfl⟩ := Option.map_eq_some_iff.mp h
    have hsame : symbol = remembered := by
      rw [rememberDynamicSymbol] at hremembered
      split at hremembered
      · cases hremembered
      · exact Option.some.inj hremembered
    intro other hother
    obtain rfl := Option.some.inj hother
    rw [← hsame]
    exact matchSymbol_sound hmatch
  | notFound =>
    rw [hmatch] at h
    obtain rfl := Option.some.inj h
    exact hcandidate
  | unavailable =>
    rw [hmatch] at h
    obtain rfl := Option.some.inj h
    exact hcandidate
  | malformed =>
    rw [hmatch] at h
    cases h

theorem lookupResult_sound (hcandidate : BackedCandidate reader view name candidate)
    (h : lookupResult candidate = .found symbol) : BackedSymbol reader view name symbol := by
  cases candidate with
  | none => cases h
  | some remembered =>
    obtain rfl := ElfDynamicLookupResult.found.inj h
    exact hcandidate remembered rfl

theorem findSysvSymbolFrom_sound {chainsVa chainCount remaining symbolIndex : Nat}
    (hcandidate : BackedCandidate reader view name candidate)
    (h : findSysvSymbolFrom reader view name chainsVa chainCount remaining symbolIndex candidate =
      .found symbol) : BackedSymbol reader view name symbol := by
  induction remaining generalizing symbolIndex candidate with
  | zero =>
    rw [findSysvSymbolFrom.eq_def] at h
    split at h
    · exact lookupResult_sound hcandidate h
    · cases h
  | succ remaining ih =>
    rw [findSysvSymbolFrom.eq_def] at h
    split at h
    · exact lookupResult_sound hcandidate h
    dsimp only at h
    split at h
    · cases h
    split at h
    · cases h
    next next hnext =>
      split at h
      · cases h
      · split at h
        · cases h
        · exact ih (considerSymbol_sound hcandidate hnext) h

theorem findGnuSymbolFrom_sound {chainsVa remaining chainIndex symbolIndex : Nat}
    (hcandidate : BackedCandidate reader view name candidate)
    (h : findGnuSymbolFrom reader view name chainsVa remaining chainIndex symbolIndex candidate =
      .found symbol) : BackedSymbol reader view name symbol := by
  induction remaining generalizing chainIndex symbolIndex candidate with
  | zero => cases h
  | succ remaining ih =>
    rw [findGnuSymbolFrom] at h
    split at h
    · cases h
    split at h
    · cases h
    next next hnext =>
      have hbacked : BackedCandidate reader view name next := by
        split at hnext
        · exact considerSymbol_sound hcandidate hnext
        · obtain rfl := Option.some.inj hnext
          exact hcandidate
      split at h
      · exact lookupResult_sound hbacked h
      · split at h
        · cases h
        · exact ih hbacked h

/-- A lookup that found something got through its first step. -/
theorem found_of_bind {α : Type} {first : Option α} {next : α → Option ElfDynamicLookupResult}
    (h : (first >>= next).getD .malformed = .found symbol) :
    ∃ value, first = some value ∧ (next value).getD .malformed = .found symbol := by
  cases first with
  | none => cases h
  | some value => exact ⟨value, rfl, h⟩

theorem findSysvSymbol_sound (h : findSysvSymbol reader view name = .found symbol) :
    BackedSymbol reader view name symbol := by
  unfold findSysvSymbol at h
  iterate 15 obtain ⟨_, -, h⟩ := found_of_bind h
  exact findSysvSymbolFrom_sound backedCandidate_none h

theorem findGnuSymbol_sound (h : findGnuSymbol reader view name = .found symbol) :
    BackedSymbol reader view name symbol := by
  unfold findGnuSymbol at h
  iterate 12 obtain ⟨_, -, h⟩ := found_of_bind h
  dsimp only at h
  split at h
  · cases h
  iterate 2 obtain ⟨_, -, h⟩ := found_of_bind h
  split at h
  · cases h
  iterate 3 obtain ⟨_, -, h⟩ := found_of_bind h
  exact findGnuSymbolFrom_sound backedCandidate_none h

end Found

end DartPlant
