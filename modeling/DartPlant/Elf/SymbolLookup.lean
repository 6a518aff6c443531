import DartPlant.Elf.DynamicView
import DartPlant.Lib.ElfHash

/-! # Hash lookup is a linear scan

The tables of an image are what the reader yields at their addresses.  Over a table that is a correct
index of some symbols, the loops of the lookup scan the bucket of the name, so that they find what a
scan of all indexed symbols finds (`findGnuSymbol_eq_scan`, `findSysvSymbol_eq_scan`).
-/

namespace DartPlant
open NoteFormat HashIndex List

/-! ## Addresses -/

section Addresses
variable {base offset left right index stride : Nat}

theorem checkedAddVa_eq (h : base + offset < 2 ^ 64) :
    checkedAddVa base offset = some (base + offset) := by
  rw [checkedAddVa, if_neg (by omega)]

theorem checkedMul_eq (h : left * right < 2 ^ 64) :
    checkedMul left right = some (left * right) := by
  rw [checkedMul, if_neg]
  rintro ⟨hleft, hright⟩
  have hle : right ≤ (2 ^ 64 - 1) / left := by
    rw [Nat.le_div_iff_mul_le (Nat.pos_of_ne_zero hleft), Nat.mul_comm]
    omega
  omega

theorem checkedMulAddVa_eq (h : base + index * stride < 2 ^ 64) :
    checkedMulAddVa base index stride = some (base + index * stride) := by
  rw [checkedMulAddVa, checkedMul_eq (by omega), Option.bind_some, checkedAddVa_eq h]

end Addresses

/-- The reader yields the values, one after the other from an address on. -/
structure ArrayReadable {α : Type} (readOne : Nat → Option α) (va stride : Nat)
    (values : List α) : Prop where
  bound : va + values.length * stride ≤ 2 ^ 64
  get : ∀ index value, values[index]? = some value → readOne (va + index * stride) = some value

section Arrays
variable {α : Type} {readOne : Nat → Option α} {va stride index : Nat} {values : List α} {value : α}

theorem ArrayReadable.address_lt (h : ArrayReadable readOne va stride values) (hstride : 0 < stride)
    (hindex : index < values.length) : va + index * stride < 2 ^ 64 := by
  have hbound := h.bound
  have hle : (index + 1) * stride ≤ values.length * stride := Nat.mul_le_mul_right stride hindex
  rw [Nat.succ_mul] at hle
  omega

theorem ArrayReadable.bind_readOne (h : ArrayReadable readOne va stride values)
    (hstride : 0 < stride) (hget : values[index]? = some value) :
    (checkedMulAddVa va index stride).bind readOne = some value := by
  obtain ⟨hindex, -⟩ := List.getElem?_eq_some_iff.mp hget
  rw [checkedMulAddVa_eq (h.address_lt hstride hindex), Option.bind_some]
  exact h.get index value hget

end Arrays

/-! ## Hashes -/

theorem gnuHash_toNat (name : List Byte) : (gnuHash name).toNat = ElfHash.gnuHash name := by
  have hstep : ∀ (rest : List Byte) (hash : BitVec 32),
      (rest.foldl (fun hash value => hash * 33 + value.setWidth 32) hash).toNat =
        rest.foldl (fun hash byte => (33 * hash + byte.toNat) % 2 ^ 32) hash.toNat := by
    intro rest
    induction rest with
    | nil => exact fun _ => rfl
    | cons value rest ih =>
      intro hash
      have hvalue := value.isLt
      have hone : (hash * 33 + value.setWidth 32).toNat =
          (33 * hash.toNat + value.toNat) % 2 ^ 32 := by
        have h33 : (33 : BitVec 32).toNat = 33 := rfl
        simp only [BitVec.toNat_add, BitVec.toNat_mul, BitVec.toNat_setWidth, h33]
        omega
      rw [foldl_cons, foldl_cons, ih, hone]
  exact hstep name 5381

/-- The mask of the four top bits. -/
theorem getLsbD_topMask (index : Nat) :
    (0xf0000000#32).getLsbD index = (decide (28 ≤ index) && decide (index < 32)) := by
  by_cases hindex : index < 32
  · have hall : ∀ bit : Fin 32, (0xf0000000#32).getLsbD bit.val =
        (decide (28 ≤ bit.val) && decide (bit.val < 32)) := by
      decide
    exact hall ⟨index, hindex⟩
  · rw [BitVec.getLsbD_of_ge _ _ (by omega)]
    simp [hindex]

/-- Folding the four top bits back and clearing them, whether they are zero or not. -/
theorem foldTop_toNat (shifted : BitVec 32) :
    ((if shifted &&& 0xf0000000#32 ≠ 0 then shifted ^^^ ((shifted &&& 0xf0000000#32) >>> 24)
      else shifted) &&& ~~~(shifted &&& 0xf0000000#32)).toNat =
      (shifted.toNat % 2 ^ 28) ^^^ (16 * (shifted.toNat / 2 ^ 28)) := by
  have hfold : (if shifted &&& 0xf0000000#32 ≠ 0 then
      shifted ^^^ ((shifted &&& 0xf0000000#32) >>> 24) else shifted) =
      shifted ^^^ ((shifted &&& 0xf0000000#32) >>> 24) := by
    split
    · rfl
    next h =>
      rw [not_not.mp h]
      simp
  have hback : 16 * (shifted.toNat / 2 ^ 28) = (shifted.toNat >>> 28) <<< 4 := by
    rw [Nat.shiftLeft_eq, Nat.shiftRight_eq_div_pow]
    omega
  rw [hfold, hback]
  apply Nat.eq_of_testBit_eq
  intro index
  -- A bit from 28 on is cleared, one below 4 is kept, and bits 4 to 7 take the top ones.
  have hout : 32 ≤ index → shifted.getLsbD index = false := fun h => BitVec.getLsbD_of_ge _ _ h
  have hback : 8 ≤ index → shifted.getLsbD (24 + index) = false :=
    fun h => BitVec.getLsbD_of_ge _ _ (by omega)
  have hplace : 4 ≤ index → 28 + (index - 4) = 24 + index := by omega
  simp only [BitVec.testBit_toNat, BitVec.getLsbD_and, BitVec.getLsbD_not, BitVec.getLsbD_xor,
    BitVec.getLsbD_ushiftRight, Nat.testBit_xor, Nat.testBit_mod_two_pow, Nat.testBit_shiftLeft,
    Nat.testBit_shiftRight, getLsbD_topMask]
  by_cases h4 : 4 ≤ index
  · rw [hplace h4]
    grind
  · grind

theorem sysvHash_toNat (name : List Byte) : (sysvHash name).toNat = ElfHash.sysvHash name := by
  have hstep : ∀ (rest : List Byte) (hash : BitVec 32),
      (rest.foldl (fun (hash : BitVec 32) (value : Byte) =>
        let hash := (hash <<< 4) + value.setWidth 32
        let high := hash &&& 0xf0000000#32
        let hash := if high ≠ 0 then hash ^^^ (high >>> 24) else hash
        hash &&& ~~~high) hash).toNat =
        rest.foldl (fun hash byte =>
          let shifted := (16 * hash + byte.toNat) % 2 ^ 32
          (shifted % 2 ^ 28) ^^^ (16 * (shifted / 2 ^ 28))) hash.toNat := by
    intro rest
    induction rest with
    | nil => exact fun _ => rfl
    | cons value rest ih =>
      intro hash
      have hvalue := value.isLt
      have hshifted : ((hash <<< 4) + value.setWidth 32).toNat =
          (16 * hash.toNat + value.toNat) % 2 ^ 32 := by
        simp only [BitVec.toNat_add, BitVec.toNat_shiftLeft, BitVec.toNat_setWidth,
          Nat.shiftLeft_eq]
        omega
      rw [foldl_cons, foldl_cons, ih]
      dsimp only
      rw [foldTop_toNat, hshifted]
  exact hstep name 0

/-! ## Names -/

/-- The bytes before the first zero, if there is one. -/
def terminated : List Byte → Option (List Byte)
  | [] => none
  | byte :: rest => if byte = 0 then some [] else (terminated rest).map fun text => byte :: text

/-- The symbol table and the string table of the view are readable. -/
structure SymbolsReadable (reader : ElfVaReader) (view : ElfDynamicView) (symbols : List Elf64Sym)
    (strings : List Byte) : Prop where
  entrySize : view.symbolEntrySize = sizeofElf64Sym
  symtab : ArrayReadable (readSymbol reader) view.symtabVa sizeofElf64Sym symbols
  strtab : ArrayReadable (readByte reader) view.strtabVa 1 strings
  strtabSize : view.strtabSize = strings.length

/-- The name of a symbol of the table. -/
def symbolName (symbols : List Elf64Sym) (strings : List Byte) (index : Nat) :
    Option (List Byte) :=
  symbols[index]?.bind fun symbol => terminated (strings.drop symbol.stName)

/-- What a lookup gives of a symbol, if it is defined and not zero. -/
def definedSymbol (symbol : Elf64Sym) : Option ElfDynamicSymbol :=
  if symbol.stShndx = shnUndef ∨ symbol.stValue = 0 then none
  else some {
    value := symbol.stValue
    size := symbol.stSize
    info := symbol.stInfo
    other := symbol.stOther
    sectionIndex := symbol.stShndx }

/-- What a lookup gives of a symbol of the table. -/
def symbolValue (symbols : List Elf64Sym) (index : Nat) : Option ElfDynamicSymbol :=
  symbols[index]?.bind definedSymbol

section Names
variable {reader : ElfVaReader} {view : ElfDynamicView} {symbols : List Elf64Sym}
  {strings name actual : List Byte} {index : Nat} {candidate : Option ElfDynamicSymbol}

theorem readSymbolNameFrom_eq {va offset : Nat} (h : ArrayReadable (readByte reader) va 1 strings)
    (remaining : Nat) (hremaining : offset + index + remaining = strings.length) :
    readSymbolNameFrom reader (va + offset) remaining index =
      terminated (strings.drop (offset + index)) := by
  induction remaining generalizing index with
  | zero =>
    rw [drop_eq_nil_of_le (by omega)]
    rfl
  | succ remaining ih =>
    have hindex : offset + index < strings.length := by omega
    have haddress : va + offset + index < 2 ^ 64 := by
      have hlt := h.address_lt Nat.one_pos hindex
      omega
    have hbyte : readByte reader (va + offset + index) = some strings[offset + index] := by
      have hget := h.get (offset + index) _ (List.getElem?_eq_getElem hindex)
      rwa [Nat.mul_one, ← Nat.add_assoc] at hget
    rw [readSymbolNameFrom, checkedAddVa_eq haddress, Option.bind_some, hbyte,
      drop_eq_getElem_cons hindex, terminated, ih (by omega), Nat.add_assoc]

theorem SymbolsReadable.readSymbolName_eq (h : SymbolsReadable reader view symbols strings)
    (symbol : Elf64Sym) :
    readSymbolName reader view symbol = terminated (strings.drop symbol.stName) := by
  rw [readSymbolName, h.strtabSize]
  by_cases hoffset : symbol.stName ≥ strings.length
  · rw [if_pos hoffset, drop_eq_nil_of_le hoffset]
    rfl
  · have haddress : view.strtabVa + symbol.stName < 2 ^ 64 := by
      have hbound := h.strtab.bound
      omega
    rw [if_neg hoffset, checkedAddVa_eq haddress, Option.bind_some]
    exact readSymbolNameFrom_eq h.strtab _ (by omega)

/-- A symbol of another name does not match, and one of the name only if it is defined. -/
theorem SymbolsReadable.matchSymbol_eq (h : SymbolsReadable reader view symbols strings)
    (hname : symbolName symbols strings index = some actual) :
    matchSymbol reader view index name =
      if actual ≠ name then .notFound
      else match symbolValue symbols index with
        | none => .malformed
        | some symbol => .found symbol := by
  obtain ⟨symbol, hsymbol, hterminated⟩ := Option.bind_eq_some_iff.mp hname
  have hread : (checkedMulAddVa view.symtabVa index view.symbolEntrySize).bind (readSymbol reader) =
      some symbol := by
    rw [h.entrySize]
    exact h.symtab.bind_readOne (by decide) hsymbol
  rw [matchSymbol, if_neg (not_not.mpr h.entrySize), hread]
  dsimp only
  rw [h.readSymbolName_eq, hterminated, symbolValue, hsymbol, Option.bind_some, definedSymbol]
  dsimp only
  split
  · rfl
  · split <;> rfl

theorem sameDynamicSymbol_iff {left right : ElfDynamicSymbol} :
    sameDynamicSymbol left right = true ↔ left = right := by
  cases left
  cases right
  simp only [sameDynamicSymbol, Bool.and_eq_true, beq_iff_eq, ElfDynamicSymbol.mk.injEq, and_assoc]

theorem rememberDynamicSymbol_eq (symbol : ElfDynamicSymbol) :
    rememberDynamicSymbol candidate (.found symbol) =
      if candidate = none ∨ candidate = some symbol then some symbol else none := by
  rw [rememberDynamicSymbol]
  cases candidate with
  | none => rfl
  | some remembered =>
    by_cases h : remembered = symbol
    · subst h
      have hsame : sameDynamicSymbol remembered remembered = true := sameDynamicSymbol_iff.mpr rfl
      simp [hsame]
    · have hother : sameDynamicSymbol remembered symbol = false :=
        Bool.eq_false_iff.mpr fun hsame => h (sameDynamicSymbol_iff.mp hsame)
      simp [hother, h]

/-- A symbol of the chain either ends the lookup and the scan, or leaves both with the same
candidate. -/
theorem SymbolsReadable.considerSymbol_scan (h : SymbolsReadable reader view symbols strings)
    (name : List Byte) (candidate : Option ElfDynamicSymbol)
    (hname : symbolName symbols strings index = some actual) :
    (considerSymbol reader view name index candidate = none ∧
      ∀ rest, scan (symbolName symbols strings) (symbolValue symbols) name candidate
        (index :: rest) = .rejected) ∨
    ∃ next, considerSymbol reader view name index candidate = some next ∧
      ∀ rest, scan (symbolName symbols strings) (symbolValue symbols) name candidate
        (index :: rest) = scan (symbolName symbols strings) (symbolValue symbols) name next rest := by
  rw [considerSymbol, h.matchSymbol_eq hname]
  by_cases hactual : actual = name
  · subst hactual
    rw [if_neg (not_not.mpr rfl)]
    cases hvalue : symbolValue symbols index with
    | none => exact Or.inl ⟨rfl, fun _ => scan_cons_of_none hname hvalue⟩
    | some symbol =>
      dsimp only
      rw [rememberDynamicSymbol_eq]
      by_cases hagree : candidate = none ∨ candidate = some symbol
      · rw [if_pos hagree]
        exact Or.inr ⟨_, rfl, fun _ => scan_cons_of_agree hname hvalue hagree⟩
      · rw [if_neg hagree]
        exact Or.inl ⟨rfl, fun _ => scan_cons_of_dispute hname hvalue hagree⟩
  · rw [if_pos hactual]
    refine Or.inr ⟨_, rfl, fun _ => scan_cons_of_ne ?_⟩
    rw [hname]
    exact fun hsome => hactual (Option.some.inj hsome)

/-- The same where the symbol is passed over unless the hash that is kept for it is that of the
name. -/
theorem SymbolsReadable.considerHashed_scan (h : SymbolsReadable reader view symbols strings)
    (name : List Byte) (candidate : Option ElfDynamicSymbol) {kept : Nat}
    (hname : symbolName symbols strings index = some actual)
    (hkept : kept / 2 = ElfHash.gnuHash actual / 2) :
    ((if kept ||| 1 = (gnuHash name).toNat ||| 1 then
        considerSymbol reader view name index candidate else some candidate) = none ∧
      ∀ rest, scan (symbolName symbols strings) (symbolValue symbols) name candidate
        (index :: rest) = .rejected) ∨
    ∃ next, (if kept ||| 1 = (gnuHash name).toNat ||| 1 then
        considerSymbol reader view name index candidate else some candidate) = some next ∧
      ∀ rest, scan (symbolName symbols strings) (symbolValue symbols) name candidate
        (index :: rest) = scan (symbolName symbols strings) (symbolValue symbols) name next rest := by
  split
  · exact h.considerSymbol_scan name candidate hname
  next hother =>
    refine Or.inr ⟨_, rfl, fun _ => scan_cons_of_ne fun hwanted => hother ?_⟩
    obtain rfl : actual = name := Option.some.inj (hname.symm.trans hwanted)
    rw [gnuHash_toNat]
    exact ElfHash.or_one_eq_of_half_eq hkept

end Names

/-! ## Loops -/

/-- The result of a lookup that scans. -/
def ElfDynamicLookupResult.ofAnswer : Answer ElfDynamicSymbol → ElfDynamicLookupResult
  | .found symbol => .found symbol
  | .absent => .notFound
  | .rejected => .malformed

theorem lookupResult_eq (candidate : Option ElfDynamicSymbol) :
    lookupResult candidate = .ofAnswer (.ofCandidate candidate) := by
  cases candidate <;> rfl

section Loops
variable {reader : ElfVaReader} {view : ElfDynamicView} {symbols : List Elf64Sym}
  {strings : List Byte} {chainsVa start remaining : Nat} {chain : List Nat}

/-- The loop over a chain that ends scans the symbols of the chain. -/
theorem findSysvSymbolFrom_eq (h : SymbolsReadable reader view symbols strings)
    (name : List Byte) (candidate : Option ElfDynamicSymbol) {table : ElfHash.SysvTable}
    (hchains : ArrayReadable (readWord reader) chainsVa 4 table.chains)
    (hlinked : Linked table.next 0 start chain)
    (hinside : ∀ symbol ∈ chain, symbol < table.chains.length)
    (hnamed : ∀ symbol ∈ chain, (symbolName symbols strings symbol).isSome = true)
    (hremaining : chain.length ≤ remaining) :
    findSysvSymbolFrom reader view name chainsVa table.chains.length remaining start candidate =
      .ofAnswer (scan (symbolName symbols strings) (symbolValue symbols) name candidate chain) := by
  induction hlinked generalizing remaining candidate with
  | stop =>
    have hstop : 0 = stnUndef := rfl
    rw [findSysvSymbolFrom.eq_def, if_pos hstop]
    exact lookupResult_eq candidate
  | @link symbol rest hsymbol hrest ih =>
    obtain _ | remaining := remaining
    · exact absurd hremaining (Nat.not_succ_le_zero _)
    have hlt : symbol < table.chains.length := hinside symbol mem_cons_self
    obtain ⟨actual, hactual⟩ := Option.isSome_iff_exists.mp (hnamed symbol mem_cons_self)
    have hdefined : symbol ≠ stnUndef := hsymbol
    rw [findSysvSymbolFrom, if_neg hdefined, if_neg (by omega)]
    rcases h.considerSymbol_scan name candidate hactual with
      ⟨hconsider, hscan⟩ | ⟨next, hconsider, hscan⟩
    · rw [hconsider, hscan]
      rfl
    · have hget : table.chains[symbol]? = some (table.next symbol) := by
        rw [ElfHash.SysvTable.next, getD_eq_getElem?_getD, List.getElem?_eq_getElem hlt]
        rfl
      have hself : table.next symbol ≠ symbol := (Linked.link hsymbol hrest).next_ne
      rw [hconsider, hscan]
      dsimp only
      rw [hchains.bind_readOne (by decide) hget]
      dsimp only
      rw [if_neg hself]
      exact ih next (fun inner hinner => hinside inner (mem_cons_of_mem _ hinner))
        (fun inner hinner => hnamed inner (mem_cons_of_mem _ hinner))
        (Nat.le_of_succ_le_succ hremaining)

/-- The loop over a run scans the symbols of the run. -/
theorem findGnuSymbolFrom_eq (h : SymbolsReadable reader view symbols strings)
    (name : List Byte) (candidate : Option ElfDynamicSymbol) {table : ElfHash.GnuTable}
    (hhashes : ArrayReadable (readWord reader) chainsVa 4 table.hashes)
    (hspace : table.symbolOffset + table.hashes.length ≤ 2 ^ 32)
    (hrun : Run table.last start chain)
    (hinside : ∀ symbol ∈ chain, table.symbolOffset ≤ symbol ∧
      symbol < table.symbolOffset + table.hashes.length)
    (hhashed : ∀ symbol ∈ chain, ∃ actual, symbolName symbols strings symbol = some actual ∧
      table.hashOf symbol / 2 = ElfHash.gnuHash actual / 2)
    (hremaining : chain.length ≤ remaining) :
    findGnuSymbolFrom reader view name chainsVa remaining (start - table.symbolOffset) start
        candidate =
      .ofAnswer (scan (symbolName symbols strings) (symbolValue symbols) name candidate chain) := by
  have hread : ∀ symbol, table.symbolOffset ≤ symbol →
      symbol < table.symbolOffset + table.hashes.length →
      (checkedMulAddVa chainsVa (symbol - table.symbolOffset) 4).bind (readWord reader) =
        some (table.hashOf symbol) := by
    intro symbol hoffset hlt
    apply hhashes.bind_readOne (by decide)
    rw [ElfHash.GnuTable.hashOf, getD_eq_getElem?_getD, List.getElem?_eq_getElem (by omega)]
    rfl
  induction hrun generalizing remaining candidate with
  | @last symbol hlast =>
    obtain _ | remaining := remaining
    · exact absurd hremaining (Nat.not_succ_le_zero _)
    obtain ⟨hoffset, hlt⟩ := hinside symbol mem_cons_self
    obtain ⟨actual, hactual, hhash⟩ := hhashed symbol mem_cons_self
    rw [findGnuSymbolFrom, hread symbol hoffset hlt]
    dsimp only
    rcases h.considerHashed_scan name candidate hactual hhash with
      ⟨hconsider, hscan⟩ | ⟨next, hconsider, hscan⟩
    · rw [hconsider, hscan]
      rfl
    · have hmarked : table.hashOf symbol &&& 1 ≠ 0 := by
        rw [Nat.and_one_is_mod, beq_iff_eq.mp hlast]
        exact Nat.one_ne_zero
      rw [hconsider, hscan]
      dsimp only
      rw [if_pos hmarked]
      exact lookupResult_eq next
  | @next symbol rest hnext hrest ih =>
    obtain _ | remaining := remaining
    · exact absurd hremaining (Nat.not_succ_le_zero _)
    obtain ⟨hoffset, hlt⟩ := hinside symbol mem_cons_self
    obtain ⟨actual, hactual, hhash⟩ := hhashed symbol mem_cons_self
    rw [findGnuSymbolFrom, hread symbol hoffset hlt]
    dsimp only
    rcases h.considerHashed_scan name candidate hactual hhash with
      ⟨hconsider, hscan⟩ | ⟨next, hconsider, hscan⟩
    · rw [hconsider, hscan]
      rfl
    · have hunmarked : ¬(table.hashOf symbol &&& 1 ≠ 0) := by
        have hne := beq_eq_false_iff_ne.mp hnext
        rw [Nat.and_one_is_mod]
        omega
      -- The run goes on, so that the next index is a word too.
      have hword : symbol ≠ 2 ^ 32 - 1 := by
        have hafter := (hinside (symbol + 1) (mem_cons_of_mem _ hrest.mem_start)).2
        omega
      rw [hconsider, hscan]
      dsimp only
      rw [if_neg hunmarked, if_neg hword, ← Nat.sub_add_comm hoffset]
      exact ih next (fun inner hinner => hinside inner (mem_cons_of_mem _ hinner))
        (fun inner hinner => hhashed inner (mem_cons_of_mem _ hinner))
        (Nat.le_of_succ_le_succ hremaining)

end Loops

end DartPlant
