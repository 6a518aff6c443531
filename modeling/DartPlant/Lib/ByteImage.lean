import Mathlib.Data.BitVec
import Mathlib.Data.Option.Basic

/-! # Memory images

What a process can read of its memory: a byte at some addresses and nothing at others.  A read of
several bytes gives all of them or nothing, and a long read is two short ones.
-/

namespace ByteImage

/-- The byte at every address that can be read. -/
abbrev Image := BitVec 64 → Option (BitVec 8)

/-- So many bytes from an address on. -/
def read (image : Image) (address : BitVec 64) : Nat → Option (List (BitVec 8))
  | 0 => some []
  | count + 1 =>
    (image address).bind fun byte => (read image (address + 1) count).map (byte :: ·)

/-- The little-endian number of some bytes. -/
def value : List (BitVec 8) → Nat
  | [] => 0
  | byte :: rest => byte.toNat + 256 * value rest

/-- The little-endian number in so many bytes from an address on. -/
def readValue (image : Image) (address : BitVec 64) (count : Nat) : Option Nat :=
  (read image address count).map value

variable {image : Image} {address : BitVec 64} {bytes : List (BitVec 8)}

/-- A long read is two short ones. -/
theorem read_add (image : Image) (address : BitVec 64) (first second : Nat) :
    read image address (first + second) =
      (read image address first).bind fun left =>
        (read image (address + BitVec.ofNat 64 first) second).map (left ++ ·) := by
  induction first generalizing address with
  | zero =>
    have haddress : address + BitVec.ofNat 64 0 = address := BitVec.add_zero _
    rw [Nat.zero_add, haddress, read, Option.bind_some]
    exact Option.map_id'.symm
  | succ first ih =>
    have haddress : address + 1 + BitVec.ofNat 64 first =
        address + BitVec.ofNat 64 (first + 1) := by
      rw [BitVec.add_assoc, Nat.add_comm first, BitVec.ofNat_add]
      rfl
    rw [Nat.succ_add, read, read, ih, haddress, Option.bind_assoc]
    simp only [Option.map_bind, Option.bind_map, Option.map_map, Function.comp_def,
      List.cons_append]

end ByteImage
