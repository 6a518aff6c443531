import Mathlib.Data.BitVec
import Mathlib.Tactic.Positivity
import Mathlib.Tactic.Ring

/-! # Byte memory

A flat memory of bytes under 64-bit addresses that wrap around, with little-endian accesses of any
width up to the whole of it.  A load gives back what was stored at its address, and a load apart
from a store does not see it.
-/

namespace DartPlant.ByteMemory

/-- Every byte of an address space. -/
abbrev Memory := BitVec 64 → BitVec 8

variable {memory : Memory} {address other : BitVec 64} {width value count : Nat}

/-- The little-endian number in so many bytes from the address on. -/
def load (memory : Memory) (address : BitVec 64) : Nat → Nat
  | 0 => 0
  | count + 1 => load memory address count +
      256 ^ count * (memory (address + BitVec.ofNat 64 count)).toNat

/-- The memory with so many low bytes of the number from the address on. -/
def store (memory : Memory) (address : BitVec 64) (width value : Nat) : Memory := fun place =>
  if (place - address).toNat < width then BitVec.ofNat 8 (value / 256 ^ (place - address).toNat)
  else memory place

/-- The number of bytes from one address up to another. -/
def gap (address other : BitVec 64) : Nat := (other - address).toNat

theorem store_apart {place : BitVec 64} (h : width ≤ (place - address).toNat) :
    store memory address width value place = memory place := by
  rw [store, if_neg (Nat.not_lt.mpr h)]

theorem store_inside (hcount : count < width) (hspace : width ≤ 2 ^ 64) :
    store memory address width value (address + BitVec.ofNat 64 count) =
      BitVec.ofNat 8 (value / 256 ^ count) := by
  have hoffset : (address + BitVec.ofNat 64 count - address).toNat = count := by
    have hsmall : count < 2 ^ 64 := Nat.lt_of_lt_of_le hcount hspace
    rw [BitVec.add_comm, BitVec.add_sub_cancel, BitVec.toNat_ofNat, Nat.mod_eq_of_lt hsmall]
  rw [store, hoffset, if_pos hcount]

/-- A load sees the bytes that it covers only. -/
theorem load_congr {memory' : Memory}
    (h : ∀ offset < count, memory' (address + BitVec.ofNat 64 offset) =
      memory (address + BitVec.ofNat 64 offset)) :
    load memory' address count = load memory address count := by
  induction count with
  | zero => rfl
  | succ count ih =>
    rw [load, load, ih fun offset hoffset => h offset (Nat.lt_succ_of_lt hoffset),
      h count (Nat.lt_succ_self count)]

theorem load_store_prefix (hcount : count ≤ width) (hspace : width ≤ 2 ^ 64) :
    load (store memory address width value) address count = value % 256 ^ count := by
  induction count with
  | zero => rw [load, pow_zero, Nat.mod_one]
  | succ count ih =>
    have hbyte : (BitVec.ofNat 8 (value / 256 ^ count)).toNat = value / 256 ^ count % 256 :=
      BitVec.toNat_ofNat _ _
    rw [load, ih (Nat.le_of_succ_le hcount), store_inside hcount hspace, hbyte, Nat.mod_pow_succ]

/-- A load gives back what was stored. -/
theorem load_store (hspace : width ≤ 2 ^ 64) :
    load (store memory address width value) address width = value % 256 ^ width :=
  load_store_prefix le_rfl hspace

/-- A load apart from the store does not see it. -/
theorem load_store_apart (hafter : width ≤ gap address other)
    (hbefore : count ≤ gap other address) :
    load (store memory address width value) other count = load memory other count := by
  apply load_congr
  intro offset hoffset
  apply store_apart
  unfold gap at hafter hbefore
  have : other ≠ address ∨ count = 0 := by
    by_cases h : other = address
    · subst h
      rw [BitVec.sub_self, BitVec.toNat_zero] at hbefore
      exact Or.inr (Nat.le_zero.mp hbefore)
    · exact Or.inl h
  bv_omega

/-! ## Words -/

/-- The 64-bit word at the address. -/
def word (memory : Memory) (address : BitVec 64) : BitVec 64 :=
  BitVec.ofNat 64 (load memory address 8)

def setWord (memory : Memory) (address value : BitVec 64) : Memory :=
  store memory address 8 value.toNat

/-- The two words have no byte in common. -/
def WordsApart (address other : BitVec 64) : Prop :=
  8 ≤ gap address other ∧ 8 ≤ gap other address

@[simp] theorem word_setWord {value : BitVec 64} :
    word (setWord memory address value) address = value := by
  have hvalue : value.toNat % 256 ^ 8 = value.toNat := Nat.mod_eq_of_lt value.isLt
  rw [word, setWord, load_store (by decide), hvalue, BitVec.ofNat_toNat, BitVec.setWidth_eq]

theorem word_setWord_apart {value : BitVec 64} (h : WordsApart address other) :
    word (setWord memory address value) other = word memory other := by
  rw [word, setWord, load_store_apart h.1 h.2, word]

theorem load_lt : load memory address count < 256 ^ count := by
  induction count with
  | zero => exact Nat.one_pos
  | succ count ih =>
    have hbyte := (memory (address + BitVec.ofNat 64 count)).isLt
    have hlast : 256 ^ count * (memory (address + BitVec.ofNat 64 count)).toNat ≤
        256 ^ count * 255 := Nat.mul_le_mul_left _ (Nat.le_of_lt_succ hbyte)
    rw [load, pow_succ]
    omega

/-- The bytes of a load are those of the memory. -/
theorem load_digit (h : count < width) :
    load memory address width / 256 ^ count % 256 =
      (memory (address + BitVec.ofNat 64 count)).toNat := by
  induction width with
  | zero => cases h
  | succ width ih =>
    rw [load]
    rcases Nat.lt_succ_iff_lt_or_eq.mp h with hlt | rfl
    · obtain ⟨rest, rfl⟩ := Nat.exists_eq_add_of_lt hlt
      have hsplit : 256 ^ (count + rest + 1) = 256 ^ count * (256 * 256 ^ rest) := by ring
      rw [hsplit, Nat.mul_assoc, Nat.add_mul_div_left _ _ (by positivity), Nat.mul_assoc,
        Nat.add_mul_mod_self_left, ih hlt]
    · have hbyte := (memory (address + BitVec.ofNat 64 count)).isLt
      rw [Nat.add_mul_div_left _ _ (by positivity), Nat.div_eq_of_lt load_lt, Nat.zero_add,
        Nat.mod_eq_of_lt hbyte]

/-- A word that is stored where it is already changes nothing. -/
theorem setWord_word : setWord memory address (word memory address) = memory := by
  funext place
  rw [setWord, store]
  split
  next hinside =>
    have hplace : address + BitVec.ofNat 64 (place - address).toNat = place := by
      rw [BitVec.ofNat_toNat, BitVec.setWidth_eq, BitVec.add_comm, BitVec.sub_add_cancel]
    have hload : (word memory address).toNat = load memory address 8 := by
      have hsmall : load memory address 8 < 2 ^ 64 := load_lt
      rw [word, BitVec.toNat_ofNat, Nat.mod_eq_of_lt hsmall]
    apply BitVec.eq_of_toNat_eq
    rw [hload, BitVec.toNat_ofNat, load_digit hinside, hplace]
  · rfl

end DartPlant.ByteMemory
