import DartPlant.Elf.SymbolLookup

/-! # Lookup through the hash tables

A table is readable when its header, its anchors and its arrays are.  Over readable tables that index
the same symbols, both lookups answer what a linear scan of these symbols does
(`dynamic_symbol_lookup_scans`).
-/

namespace DartPlant
open NoteFormat HashIndex

/-- The parts of a System V table are readable, and so is an entry of the symbol table for every
chain entry. -/
structure SysvReadable (reader : ElfVaReader) (view : ElfDynamicView) (hashVa : Nat)
    (table : ElfHash.SysvTable) : Prop where
  address : view.sysvHashVa = some hashVa
  header : ∃ header, reader.read hashVa 8 = some header ∧
    word header 0 = table.buckets.length ∧ word header 4 = table.chains.length
  anchor : dynamicAnchorReadable reader hashVa
    (8 + table.buckets.length * 4 + table.chains.length * 4) = true
  symbols : dynamicAnchorReadable reader view.symtabVa
    (table.chains.length * sizeofElf64Sym) = true
  buckets : ArrayReadable (readWord reader) (hashVa + 8) 4 table.buckets
  chains : ArrayReadable (readWord reader) (hashVa + 8 + table.buckets.length * 4) 4 table.chains

/-- The parts of a GNU table are readable. -/
structure GnuReadable (reader : ElfVaReader) (view : ElfDynamicView) (hashVa : Nat)
    (table : ElfHash.GnuTable) : Prop where
  address : view.gnuHashVa = some hashVa
  header : ∃ header, reader.read hashVa 16 = some header ∧
    word header 0 = table.buckets.length ∧ word header 4 = table.symbolOffset ∧
    word header 8 = table.bloom.length ∧ word header 12 = table.bloomShift
  anchor : dynamicAnchorReadable reader hashVa
    (16 + table.bloom.length * 8 + table.buckets.length * 4) = true
  bloom : ArrayReadable (readXword reader) (hashVa + 16) 8 table.bloom
  buckets : ArrayReadable (readWord reader) (hashVa + 16 + table.bloom.length * 8) 4 table.buckets
  hashes : ArrayReadable (readWord reader)
    (hashVa + 16 + table.bloom.length * 8 + table.buckets.length * 4) 4 table.hashes
  backing : table.hashes ≠ [] → ∃ remaining,
    reader.readableBytes
      (hashVa + 16 + table.bloom.length * 8 + table.buckets.length * 4) = some remaining ∧
    table.hashes.length * 4 ≤ remaining

section Lookup
variable {reader : ElfVaReader} {view : ElfDynamicView} {symbols : List Elf64Sym}
  {strings : List Byte} {hashVa : Nat} {indexed : List Nat}

theorem anchor_ne_zero {va size : Nat} (h : dynamicAnchorReadable reader va size = true) :
    va ≠ 0 := by
  rw [dynamicAnchorReadable, Bool.and_eq_true] at h
  exact bne_iff_ne.mp h.1

theorem guard_of {p : Prop} [Decidable p] (h : p) : (guard p : Option Unit) = some () := if_pos h

/-- What `FindSysvSymbol` does when its table is readable: the loop, from the bucket of the name. -/
theorem findSysvSymbol_eq {table : ElfHash.SysvTable} {start : Nat}
    (hentry : view.symbolEntrySize = sizeofElf64Sym)
    (hreadable : SysvReadable reader view hashVa table) (hchains : table.chains ≠ [])
    (name : List Byte) (hstart : table.buckets[table.bucketOf name]? = some start) :
    findSysvSymbol reader view name =
      findSysvSymbolFrom reader view name (hashVa + 8 + table.buckets.length * 4)
        table.chains.length table.chains.length start none := by
  obtain ⟨header, hheader, hbucketCount, hchainCount⟩ := hreadable.header
  obtain ⟨hlt, -⟩ := List.getElem?_eq_some_iff.mp hstart
  have hpos := List.length_pos_iff.mpr hchains
  have hva := anchor_ne_zero hreadable.anchor
  have hbound := hreadable.chains.bound
  have hwords : table.chains.length < 2 ^ 32 := by
    rw [← hchainCount]
    exact word_lt
  have hbucket : (sysvHash name).toNat % table.buckets.length = table.bucketOf name := by
    rw [sysvHash_toNat]
    rfl
  have hbucketsVa : checkedAddVa hashVa 8 = some (hashVa + 8) := checkedAddVa_eq (by omega)
  have hbucketsSize : checkedMul table.buckets.length 4 = some (table.buckets.length * 4) :=
    checkedMul_eq (by omega)
  have hchainsSize : checkedMul table.chains.length 4 = some (table.chains.length * 4) :=
    checkedMul_eq (by omega)
  have hfixedSize : checkedAddVa 8 (table.buckets.length * 4) =
      some (8 + table.buckets.length * 4) := checkedAddVa_eq (by omega)
  have hhashTableSize : checkedAddVa (8 + table.buckets.length * 4) (table.chains.length * 4) =
      some (8 + table.buckets.length * 4 + table.chains.length * 4) := checkedAddVa_eq (by omega)
  have hdynsymSize : checkedMul table.chains.length sizeofElf64Sym =
      some (table.chains.length * sizeofElf64Sym) := by
    apply checkedMul_eq
    unfold sizeofElf64Sym
    omega
  have hchainsVa : checkedAddVa (hashVa + 8) (table.buckets.length * 4) =
      some (hashVa + 8 + table.buckets.length * 4) := checkedAddVa_eq (by omega)
  have hread : (checkedMulAddVa (hashVa + 8) (table.bucketOf name) 4).bind (readWord reader) =
      some start := hreadable.buckets.bind_readOne (by decide) hstart
  obtain ⟨bucketVa, hbucketVa, hsymbolIndex⟩ := Option.bind_eq_some_iff.mp hread
  rw [findSysvSymbol, hreadable.address]
  simp only [Option.bind_eq_bind, Option.bind_some, hheader, hbucketCount, hchainCount, hbucket,
    guard_of (Nat.ne_of_gt (Nat.zero_lt_of_lt hlt)), hentry, and_true,
    guard_of (Nat.ne_of_gt hpos), hbucketsVa, hbucketsSize, hchainsSize, hfixedSize,
    hhashTableSize, hdynsymSize, guard_of hreadable.anchor, guard_of hreadable.symbols, hbucketVa,
    hsymbolIndex, hchainsVa]
  rfl

/-- The lookup through a System V table is a scan of the symbols it indexes. -/
theorem findSysvSymbol_eq_scan (h : SymbolsReadable reader view symbols strings)
    {table : ElfHash.SysvTable} (hreadable : SysvReadable reader view hashVa table)
    (hnamed : ∀ symbol ∈ indexed, (symbolName symbols strings symbol).isSome = true)
    (hcorrect : table.Correct (symbolName symbols strings) indexed) (name : List Byte) :
    findSysvSymbol reader view name =
      .ofAnswer (scan (symbolName symbols strings) (symbolValue symbols) name none indexed) := by
  obtain ⟨chain, hcorrect⟩ := hcorrect
  have hlt : table.bucketOf name < table.buckets.length :=
    Nat.mod_lt _ (List.length_pos_iff.mpr hcorrect.bucketed)
  have hstart := List.getElem?_eq_getElem hlt
  have hlinked := hcorrect.linked _ _ hstart
  have hmem : ∀ symbol ∈ chain (table.bucketOf name), symbol ∈ indexed :=
    hcorrect.indexes.sound name
  have hinside : ∀ symbol ∈ chain (table.bucketOf name), symbol < table.chains.length :=
    fun symbol hsymbol => hcorrect.inside symbol (hmem symbol hsymbol)
  rw [findSysvSymbol_eq h.entrySize hreadable hcorrect.reserved name hstart,
    findSysvSymbolFrom_eq h name none hreadable.chains hlinked hinside
      (fun symbol hsymbol => hnamed symbol (hmem symbol hsymbol)) (hlinked.length_le hinside),
    hcorrect.indexes.scan_chain]

/-- The two bits that `FindGnuSymbol` looks for in the Bloom filter. -/
def bloomMask (hash bloomShift : Nat) : Nat :=
  1 <<< (hash % 64) ||| 1 <<< ((hash >>> bloomShift) % 64)

/-- What `FindGnuSymbol` does when its table is readable: the Bloom filter, then the loop, from the
bucket of the name. -/
theorem findGnuSymbol_eq {table : ElfHash.GnuTable} {start exponent : Nat}
    (hreadable : GnuReadable reader view hashVa table)
    (hbloomWords : table.bloom.length = 2 ^ exponent) (hshift : table.bloomShift < 32)
    (name : List Byte) (hstart : table.buckets[table.bucketOf name]? = some start)
    (hinside : start ≠ 0 → table.symbolOffset ≤ start ∧
      start < table.symbolOffset + table.hashes.length) :
    ∃ count, table.hashes.length ≤ start - table.symbolOffset + count ∧
      findGnuSymbol reader view name =
        if table.bloomWord (ElfHash.gnuHash name) &&&
            bloomMask (ElfHash.gnuHash name) table.bloomShift ≠
              bloomMask (ElfHash.gnuHash name) table.bloomShift then .notFound
        else if start = 0 then .notFound
        else
          findGnuSymbolFrom reader view name
            (hashVa + 16 + table.bloom.length * 8 + table.buckets.length * 4) count
            (start - table.symbolOffset) start none := by
  obtain ⟨header, hheader, hbucketCount, hsymbolOffset, hbloomCount, hbloomShift⟩ :=
    hreadable.header
  obtain ⟨hlt, -⟩ := List.getElem?_eq_some_iff.mp hstart
  have hva := anchor_ne_zero hreadable.anchor
  have hbound := hreadable.hashes.bound
  have hpositive : 0 < table.bloom.length := hbloomWords ▸ Nat.two_pow_pos exponent
  have hpower : table.bloom.length &&& (table.bloom.length - 1) = 0 := by
    rw [hbloomWords, Nat.and_two_pow_sub_one_eq_mod, Nat.mod_self]
  have hheaderOk : table.buckets.length ≠ 0 ∧ table.bloom.length ≠ 0 ∧ table.bloomShift < 32 ∧
      table.bloom.length &&& (table.bloom.length - 1) = 0 :=
    ⟨by omega, by omega, hshift, hpower⟩
  have hbloomBase : checkedAddVa hashVa 16 = some (hashVa + 16) := checkedAddVa_eq (by omega)
  have hbloomSize : checkedMul table.bloom.length 8 = some (table.bloom.length * 8) :=
    checkedMul_eq (by omega)
  have hbucketsVa : checkedAddVa (hashVa + 16) (table.bloom.length * 8) =
      some (hashVa + 16 + table.bloom.length * 8) := checkedAddVa_eq (by omega)
  have hbucketsSize : checkedMul table.buckets.length 4 = some (table.buckets.length * 4) :=
    checkedMul_eq (by omega)
  have hheaderSize : checkedAddVa 16 (table.bloom.length * 8) =
      some (16 + table.bloom.length * 8) := checkedAddVa_eq (by omega)
  have hfixedSize : checkedAddVa (16 + table.bloom.length * 8) (table.buckets.length * 4) =
      some (16 + table.bloom.length * 8 + table.buckets.length * 4) := checkedAddVa_eq (by omega)
  have hbloomIndex : ElfHash.gnuHash name / 64 &&& (table.bloom.length - 1) =
      ElfHash.gnuHash name / 64 % table.bloom.length := by
    rw [hbloomWords, Nat.and_two_pow_sub_one_eq_mod]
  have hbloomGet : table.bloom[ElfHash.gnuHash name / 64 % table.bloom.length]? =
      some (table.bloomWord (ElfHash.gnuHash name)) := by
    have hindex := Nat.mod_lt (ElfHash.gnuHash name / 64) hpositive
    rw [ElfHash.GnuTable.bloomWord, List.getD_eq_getElem?_getD, List.getElem?_eq_getElem hindex]
    rfl
  obtain ⟨bloomVa, hbloomVa, hbloom⟩ :=
    Option.bind_eq_some_iff.mp (hreadable.bloom.bind_readOne (by decide) hbloomGet)
  obtain ⟨bucketVa, hbucketVa, hsymbolIndex⟩ :=
    Option.bind_eq_some_iff.mp (hreadable.buckets.bind_readOne (by decide) hstart)
  rw [ElfHash.GnuTable.bucketOf] at hbucketVa
  rw [findGnuSymbol, hreadable.address]
  simp only [Option.bind_eq_bind, Option.bind_some, hheader, hbucketCount, hsymbolOffset,
    hbloomCount, hbloomShift, guard_of hheaderOk, hbloomBase, hbloomSize, hbucketsVa, hbucketsSize,
    hheaderSize, hfixedSize, guard_of hreadable.anchor, gnuHash_toNat, hbloomIndex, hbloomVa,
    hbloom]
  unfold bloomMask
  by_cases hzero : start = 0
  · subst hzero
    refine ⟨table.hashes.length, Nat.le_add_left _ _, ?_⟩
    split
    · rfl
    · simp only [hbucketVa, hsymbolIndex, Option.bind_some]
      rfl
  · obtain ⟨hoffset, hend⟩ := hinside hzero
    have hhashes : table.hashes ≠ [] := by
      intro hnil
      rw [hnil, List.length_nil] at hend
      omega
    have hpositive := List.length_pos_iff.mpr hhashes
    obtain ⟨remaining, hremaining, hbacking⟩ := hreadable.backing hhashes
    have hchainsVa : checkedAddVa (hashVa + 16 + table.bloom.length * 8)
        (table.buckets.length * 4) =
        some (hashVa + 16 + table.bloom.length * 8 + table.buckets.length * 4) :=
      checkedAddVa_eq (by omega)
    refine ⟨remaining / 4 - (start - table.symbolOffset), by omega, ?_⟩
    split
    · rfl
    · simp only [hbucketVa, hsymbolIndex, Option.bind_some, if_neg hzero, guard_of hoffset,
        hchainsVa, hremaining]
      rfl

/-- The lookup through a GNU table is a scan of the symbols it indexes. -/
theorem findGnuSymbol_eq_scan (h : SymbolsReadable reader view symbols strings)
    {table : ElfHash.GnuTable} (hreadable : GnuReadable reader view hashVa table)
    (hnamed : ∀ symbol ∈ indexed, (symbolName symbols strings symbol).isSome = true)
    (hcorrect : table.Correct (symbolName symbols strings) indexed) (name : List Byte) :
    findGnuSymbol reader view name =
      .ofAnswer (scan (symbolName symbols strings) (symbolValue symbols) name none indexed) := by
  obtain ⟨chain, hcorrect⟩ := hcorrect
  obtain ⟨exponent, hbloomWords⟩ := hcorrect.bloomWords
  have hlt : table.bucketOf name < table.buckets.length :=
    Nat.mod_lt _ (List.length_pos_iff.mpr hcorrect.bucketed)
  obtain ⟨start, hstart⟩ : ∃ start, table.buckets[table.bucketOf name]? = some start :=
    ⟨_, List.getElem?_eq_getElem hlt⟩
  have hmem : ∀ symbol ∈ chain (table.bucketOf name), symbol ∈ indexed :=
    hcorrect.indexes.sound name
  have hinside : ∀ symbol ∈ chain (table.bucketOf name), table.symbolOffset ≤ symbol ∧
      symbol < table.symbolOffset + table.hashes.length :=
    fun symbol hsymbol => hcorrect.inside symbol (hmem symbol hsymbol)
  obtain ⟨count, hcount, hfind⟩ := findGnuSymbol_eq hreadable hbloomWords hcorrect.bloomShift name
    hstart fun hzero => hinside start (hcorrect.run _ _ hstart hzero).mem_start
  rw [hfind, ← hcorrect.indexes.scan_chain]
  by_cases hfilter : table.bloomWord (ElfHash.gnuHash name) &&&
      bloomMask (ElfHash.gnuHash name) table.bloomShift ≠
        bloomMask (ElfHash.gnuHash name) table.bloomShift
  · -- No indexed symbol has the name, for its bits would be set.
    have habsent : scan (symbolName symbols strings) (symbolValue symbols) name none
        (chain (table.bucketOf name)) = .absent := by
      rw [scan_eq_absent_iff]
      intro symbol hsymbol hname
      obtain ⟨hfirst, hsecond⟩ := hcorrect.filtered symbol (hmem symbol hsymbol) name hname
      exact hfilter (ElfHash.and_mask_eq hfirst hsecond)
    rw [if_pos hfilter, habsent]
    rfl
  rw [if_neg hfilter]
  by_cases hzero : start = 0
  · subst hzero
    rw [if_pos rfl, hcorrect.empty _ hstart]
    rfl
  · rw [if_neg hzero]
    have hrun := hcorrect.run _ _ hstart hzero
    apply findGnuSymbolFrom_eq h name none hreadable.hashes hcorrect.space hrun hinside
    · intro symbol hsymbol
      obtain ⟨actual, hactual⟩ := Option.isSome_iff_exists.mp (hnamed symbol (hmem symbol hsymbol))
      exact ⟨actual, hactual, hcorrect.hashed symbol (hmem symbol hsymbol) actual hactual⟩
    · have hlength := hrun.length_le fun symbol hsymbol => (hinside symbol hsymbol).2
      have hoffset := (hinside start hrun.mem_start).1
      omega

/-- The result is that of a linear scan of the indexed symbols: a symbol is found when one of them
has the name and all that do are defined, not zero and identical, and none is found when none has
the name. -/
structure AgreesWithScan (symbols : List Elf64Sym) (strings : List Byte) (indexed : List Nat)
    (name : List Byte) (result : ElfDynamicLookupResult) : Prop where
  found : ∀ symbol, result = .found symbol ↔
    (∃ index ∈ indexed, symbolName symbols strings index = some name) ∧
      ∀ index ∈ indexed, symbolName symbols strings index = some name →
        symbolValue symbols index = some symbol
  notFound : result = .notFound ↔
    ∀ index ∈ indexed, symbolName symbols strings index ≠ some name

theorem agreesWithScan_scan (symbols : List Elf64Sym) (strings : List Byte) (indexed : List Nat)
    (name : List Byte) :
    AgreesWithScan symbols strings indexed name
      (.ofAnswer (scan (symbolName symbols strings) (symbolValue symbols) name none indexed)) where
  found symbol := by
    have hscan : scan (symbolName symbols strings) (symbolValue symbols) name none indexed =
      .found symbol ↔ _ := scan_eq_found_iff
    rw [← hscan]
    cases scan (symbolName symbols strings) (symbolValue symbols) name none indexed <;>
      simp [ElfDynamicLookupResult.ofAnswer]
  notFound := by
    have hscan : scan (symbolName symbols strings) (symbolValue symbols) name none indexed =
      .absent ↔ _ := scan_eq_absent_iff
    rw [← hscan]
    cases scan (symbolName symbols strings) (symbolValue symbols) name none indexed <;>
      simp [ElfDynamicLookupResult.ofAnswer]

theorem findElfDynamicSymbol_gnu {name : List Byte} (hname : name ≠ [])
    (hgnu : view.gnuHashVa = some hashVa) :
    findElfDynamicSymbol reader view name = findGnuSymbol reader view name := by
  rw [findElfDynamicSymbol, if_neg (by simpa using hname), hgnu]
  rfl

theorem findElfDynamicSymbol_sysv {name : List Byte} (hname : name ≠ [])
    (hgnu : view.gnuHashVa = none) (hsysv : view.sysvHashVa = some hashVa) :
    findElfDynamicSymbol reader view name = findSysvSymbol reader view name := by
  rw [findElfDynamicSymbol, if_neg (by simpa using hname), hgnu, hsysv]
  rfl

/-- A name that is not empty is looked up, through either table, as by a linear scan of the indexed
symbols, and both tables give the same result when they index the same symbols. -/
theorem dynamic_symbol_lookup_scans (h : SymbolsReadable reader view symbols strings)
    (hnamed : ∀ index ∈ indexed, (symbolName symbols strings index).isSome = true)
    {name : List Byte} (hname : name ≠ []) :
    (∀ gnuVa (gnu : ElfHash.GnuTable), GnuReadable reader view gnuVa gnu →
      gnu.Correct (symbolName symbols strings) indexed →
      AgreesWithScan symbols strings indexed name (findElfDynamicSymbol reader view name)) ∧
    (∀ sysvVa (sysv : ElfHash.SysvTable), SysvReadable reader view sysvVa sysv →
      sysv.Correct (symbolName symbols strings) indexed → view.gnuHashVa = none →
      AgreesWithScan symbols strings indexed name (findElfDynamicSymbol reader view name)) ∧
    ∀ gnuVa sysvVa (gnu : ElfHash.GnuTable) (sysv : ElfHash.SysvTable),
      GnuReadable reader view gnuVa gnu → gnu.Correct (symbolName symbols strings) indexed →
      SysvReadable reader view sysvVa sysv → sysv.Correct (symbolName symbols strings) indexed →
      findGnuSymbol reader view name = findSysvSymbol reader view name := by
  refine ⟨?_, ?_, ?_⟩
  · intro gnuVa gnu hreadable hcorrect
    rw [findElfDynamicSymbol_gnu hname hreadable.address,
      findGnuSymbol_eq_scan h hreadable hnamed hcorrect]
    exact agreesWithScan_scan symbols strings indexed name
  · intro sysvVa sysv hreadable hcorrect hgnu
    rw [findElfDynamicSymbol_sysv hname hgnu hreadable.address,
      findSysvSymbol_eq_scan h hreadable hnamed hcorrect]
    exact agreesWithScan_scan symbols strings indexed name
  · intro gnuVa sysvVa gnu sysv hgnu hgnuCorrect hsysv hsysvCorrect
    rw [findGnuSymbol_eq_scan h hgnu hnamed hgnuCorrect,
      findSysvSymbol_eq_scan h hsysv hnamed hsysvCorrect]

end Lookup

/-! ## One symbol under both tables -/

/-- A symbol table with one symbol `f`, its string table, and a System V and a GNU table over it. -/
def oneSymbolBytes : List Byte :=
  List.replicate 24 0 ++
  [1, 0, 0, 0, 0x12, 0, 7, 0, 0, 0x20, 0, 0, 0, 0, 0, 0, 4, 0, 0, 0, 0, 0, 0, 0] ++
  [0, 0x66, 0, 0] ++
  [1, 0, 0, 0, 2, 0, 0, 0, 1, 0, 0, 0, 0, 0, 0, 0, 0, 0, 0, 0] ++
  [1, 0, 0, 0, 1, 0, 0, 0, 1, 0, 0, 0, 5, 0, 0, 0, 0, 8, 0, 0, 0, 0, 1, 0, 1, 0, 0, 0,
    0x0b, 0xb6, 2, 0]

def oneSymbolReader : ElfVaReader :=
  fileElfReader oneSymbolBytes [⟨kPtLoad, 5, 0, 0x1000, 104, 104, 0x1000⟩]

def oneSymbolView : ElfDynamicView := ⟨0x1000, 0x1030, 3, 24, some 0x1034, some 0x1048⟩

def oneSymbolTable : List Elf64Sym := [⟨0, 0, 0, 0, 0, 0⟩, ⟨1, 0x12, 0, 7, 0x2000, 4⟩]

def oneSymbolStrings : List Byte := [0, 0x66, 0]

def oneSymbolSysv : ElfHash.SysvTable := ⟨[1], [0, 0]⟩

def oneSymbolGnu : ElfHash.GnuTable := ⟨1, [0x1000000000800], 5, [1], [0x2b60b]⟩

theorem arrayReadable_of_forall {α : Type} {readOne : Nat → Option α} {va stride : Nat}
    {values : List α} (hbound : va + values.length * stride ≤ 2 ^ 64)
    (hget : ∀ index : Fin values.length,
      readOne (va + index.val * stride) = some (values.get index)) :
    ArrayReadable readOne va stride values where
  bound := hbound
  get index value hvalue := by
    obtain ⟨hindex, rfl⟩ := List.getElem?_eq_some_iff.mp hvalue
    exact hget ⟨index, hindex⟩

theorem oneSymbol_symbolsReadable :
    SymbolsReadable oneSymbolReader oneSymbolView oneSymbolTable oneSymbolStrings where
  entrySize := rfl
  symtab := arrayReadable_of_forall (by decide) (by decide)
  strtab := arrayReadable_of_forall (by decide) (by decide)
  strtabSize := rfl

theorem oneSymbol_sysvReadable :
    SysvReadable oneSymbolReader oneSymbolView 0x1034 oneSymbolSysv where
  address := rfl
  header := ⟨_, rfl, by decide, by decide⟩
  anchor := by decide
  symbols := by decide
  buckets := arrayReadable_of_forall (by decide) (by decide)
  chains := arrayReadable_of_forall (by decide) (by decide)

theorem oneSymbol_gnuReadable :
    GnuReadable oneSymbolReader oneSymbolView 0x1048 oneSymbolGnu where
  address := rfl
  header := ⟨_, rfl, by decide, by decide, by decide, by decide⟩
  anchor := by decide
  bloom := arrayReadable_of_forall (by decide) (by decide)
  buckets := arrayReadable_of_forall (by decide) (by decide)
  hashes := arrayReadable_of_forall (by decide) (by decide)
  backing _ := ⟨4, by decide, by decide⟩

theorem oneSymbol_name : symbolName oneSymbolTable oneSymbolStrings 1 = some [0x66] := by decide

theorem oneSymbol_indexes {bucketOf : List Byte → Nat} :
    Indexes [1] (symbolName oneSymbolTable oneSymbolStrings) bucketOf fun _ => [1] where
  sound _ _ hsymbol := hsymbol
  complete _ hsymbol _ _ := hsymbol

theorem oneSymbol_sysvCorrect :
    oneSymbolSysv.Correct (symbolName oneSymbolTable oneSymbolStrings) [1] := by
  refine ⟨fun _ => [1], nofun, nofun, by decide, fun bucket start hstart => ?_,
    oneSymbol_indexes⟩
  cases bucket with
  | zero =>
    obtain rfl : 1 = start := Option.some.inj hstart
    exact .link Nat.one_ne_zero .stop
  | succ bucket => cases hstart

theorem oneSymbol_gnuCorrect :
    oneSymbolGnu.Correct (symbolName oneSymbolTable oneSymbolStrings) [1] := by
  have hname : ∀ index ∈ [1], ∀ text,
      symbolName oneSymbolTable oneSymbolStrings index = some text → [0x66] = text := by
    intro index hindex text htext
    obtain rfl := List.mem_singleton.mp hindex
    exact Option.some.inj (oneSymbol_name.symm.trans htext)
  refine ⟨fun _ => [1], nofun, ⟨0, rfl⟩, by decide, by decide, by decide, ?_, ?_,
    oneSymbol_indexes, ?_, ?_⟩
  · intro bucket hstart
    cases bucket <;> cases hstart
  · intro bucket start hstart _
    cases bucket with
    | zero =>
      obtain rfl : 1 = start := Option.some.inj hstart
      exact .last (by decide)
    | succ bucket => cases hstart
  · intro index hindex text htext
    obtain rfl := hname index hindex text htext
    obtain rfl := List.mem_singleton.mp hindex
    decide
  · intro index hindex text htext
    obtain rfl := hname index hindex text htext
    exact ⟨by decide, by decide⟩

theorem dynamic_symbol_lookup_scans_oneSymbol :
    AgreesWithScan oneSymbolTable oneSymbolStrings [1] [0x66]
        (findElfDynamicSymbol oneSymbolReader oneSymbolView [0x66]) ∧
      findGnuSymbol oneSymbolReader oneSymbolView [0x66] =
        findSysvSymbol oneSymbolReader oneSymbolView [0x66] := by
  obtain ⟨hgnu, -, hboth⟩ := dynamic_symbol_lookup_scans oneSymbol_symbolsReadable
    (by decide : ∀ index ∈ [1], (symbolName oneSymbolTable oneSymbolStrings index).isSome = true)
    (by decide : [(0x66 : Byte)] ≠ [])
  exact ⟨hgnu _ _ oneSymbol_gnuReadable oneSymbol_gnuCorrect,
    hboth _ _ _ _ oneSymbol_gnuReadable oneSymbol_gnuCorrect oneSymbol_sysvReadable
      oneSymbol_sysvCorrect⟩

/-- No symbol has the empty name, and the lookup of it is malformed. -/
theorem empty_name_malformed :
    SymbolsReadable oneSymbolReader oneSymbolView oneSymbolTable oneSymbolStrings ∧
      GnuReadable oneSymbolReader oneSymbolView 0x1048 oneSymbolGnu ∧
      oneSymbolGnu.Correct (symbolName oneSymbolTable oneSymbolStrings) [1] ∧
      (∀ index ∈ [1], symbolName oneSymbolTable oneSymbolStrings index ≠ some []) ∧
      findElfDynamicSymbol oneSymbolReader oneSymbolView [] ≠ .notFound := by
  refine ⟨oneSymbol_symbolsReadable, oneSymbol_gnuReadable, oneSymbol_gnuCorrect, by decide, ?_⟩
  exact nofun

end DartPlant
