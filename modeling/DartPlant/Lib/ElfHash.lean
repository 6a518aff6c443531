import DartPlant.Lib.HashIndex
import DartPlant.Lib.NoteFormat

/-! # The ELF hash tables

Two formats index the symbols of a dynamic symbol table by the hash of their names.  The System V
table links the symbols of a bucket.  The GNU table keeps them next to each other from some symbol
on, with the hash of each, whose lowest bit marks the last symbol of its bucket, and has a Bloom
filter in front.
-/

namespace DartPlant.ElfHash
open HashIndex NoteFormat

/-! ## Hashes -/

/-- The System V hash of a name: 28 bits, with the top four of every step folded back. -/
def sysvHash (name : List Byte) : Nat :=
  name.foldl (fun hash byte =>
    let shifted := (16 * hash + byte.toNat) % 2 ^ 32
    (shifted % 2 ^ 28) ^^^ (16 * (shifted / 2 ^ 28))) 0

/-- The GNU hash of a name. -/
def gnuHash (name : List Byte) : Nat :=
  name.foldl (fun hash byte => (33 * hash + byte.toNat) % 2 ^ 32) 5381

/-! ## The System V table -/

structure SysvTable where
  buckets : List Nat
  chains : List Nat
  deriving Repr

namespace SysvTable
variable (table : SysvTable)

def bucketOf (name : List Byte) : Nat := sysvHash name % table.buckets.length

/-- The symbol after a symbol in its bucket. -/
def next (symbol : Nat) : Nat := table.chains.getD symbol 0

/-- The chains end at the reserved symbol, which has an entry too, and are an index of the
symbols. -/
structure HasChains (name : Nat → Option (List Byte)) (indexed : List Nat)
    (chain : Nat → List Nat) : Prop where
  bucketed : table.buckets ≠ []
  reserved : table.chains ≠ []
  inside : ∀ symbol ∈ indexed, symbol < table.chains.length
  linked : ∀ bucket start, table.buckets[bucket]? = some start →
    Linked table.next 0 start (chain bucket)
  indexes : Indexes indexed name table.bucketOf chain

/-- The table is a correct index of the symbols. -/
def Correct (name : Nat → Option (List Byte)) (indexed : List Nat) : Prop :=
  ∃ chain, table.HasChains name indexed chain

end SysvTable

/-! ## The GNU table -/

structure GnuTable where
  symbolOffset : Nat
  bloom : List Nat
  bloomShift : Nat
  buckets : List Nat
  hashes : List Nat
  deriving Repr

namespace GnuTable
variable (table : GnuTable)

def bucketOf (name : List Byte) : Nat := gnuHash name % table.buckets.length

/-- The hash that is kept for a symbol. -/
def hashOf (symbol : Nat) : Nat := table.hashes.getD (symbol - table.symbolOffset) 0

/-- The symbol is the last one of its bucket. -/
def last (symbol : Nat) : Bool := table.hashOf symbol % 2 == 1

/-- The word of the filter for a hash. -/
def bloomWord (hash : Nat) : Nat := table.bloom.getD (hash / 64 % table.bloom.length) 0

/-- Both bits of a hash are set in the filter. -/
def BloomHas (hash : Nat) : Prop :=
  (table.bloomWord hash).testBit (hash % 64) = true ∧
    (table.bloomWord hash).testBit ((hash >>> table.bloomShift) % 64) = true

/-- The header is well formed, the buckets end and are an index of the symbols, and the hash and the
bits of the filter are kept for every symbol. -/
structure HasChains (name : Nat → Option (List Byte)) (indexed : List Nat)
    (chain : Nat → List Nat) : Prop where
  bucketed : table.buckets ≠ []
  bloomWords : ∃ exponent, table.bloom.length = 2 ^ exponent
  bloomShift : table.bloomShift < 32
  space : table.symbolOffset + table.hashes.length ≤ 2 ^ 32
  inside : ∀ symbol ∈ indexed, table.symbolOffset ≤ symbol ∧
    symbol < table.symbolOffset + table.hashes.length
  empty : ∀ bucket, table.buckets[bucket]? = some 0 → chain bucket = []
  run : ∀ bucket start, table.buckets[bucket]? = some start → start ≠ 0 →
    Run table.last start (chain bucket)
  indexes : Indexes indexed name table.bucketOf chain
  hashed : ∀ symbol ∈ indexed, ∀ text, name symbol = some text →
    table.hashOf symbol / 2 = gnuHash text / 2
  filtered : ∀ symbol ∈ indexed, ∀ text, name symbol = some text →
    table.BloomHas (gnuHash text)

/-- The table is a correct index of the symbols. -/
def Correct (name : Nat → Option (List Byte)) (indexed : List Nat) : Prop :=
  ∃ chain, table.HasChains name indexed chain

end GnuTable

/-! ## Bits -/

/-- Two hashes that differ at most in the lowest bit are equal once it is set. -/
theorem or_one_eq_of_half_eq {left right : Nat} (h : left / 2 = right / 2) :
    left ||| 1 = right ||| 1 := by
  have hodd : ∀ value : Nat, value ||| 1 = 2 * (value / 2) + 1 := by
    intro value
    apply Nat.eq_of_testBit_eq
    intro index
    cases index with
    | zero => simp
    | succ index =>
      have hhalf : (2 * (value / 2) + 1) / 2 = value / 2 := by omega
      rw [Nat.testBit_add_one, Nat.testBit_add_one, Nat.or_div_two, hhalf]
      simp
  rw [hodd, hodd, h]

/-- A word with two bits set has the mask of both. -/
theorem and_mask_eq {word first second : Nat} (hfirst : word.testBit first = true)
    (hsecond : word.testBit second = true) :
    word &&& (1 <<< first ||| 1 <<< second) = 1 <<< first ||| 1 <<< second := by
  apply Nat.eq_of_testBit_eq
  intro index
  simp only [Nat.testBit_and, Nat.testBit_or, Nat.shiftLeft_eq, Nat.one_mul, Nat.testBit_two_pow]
  by_cases h : first = index
  · subst h
    simp [hfirst]
  · by_cases h' : second = index
    · subst h'
      simp [hsecond]
    · simp [h, h']

end DartPlant.ElfHash
