import DartPlant.Lib.ByteMemory
import DartPlant.Lib.Extents

/-! # Fields of a memory

Numbers of several widths that are stored one after the other relative to a base.  When the fields
are apart from each other, each one is read back, and nothing else has changed.
-/

namespace DartPlant.ByteMemory
open Extents

/-- A number, with its width in bytes and its place. -/
structure Field where
  offset : Nat
  width : Nat
  value : Nat
  deriving DecidableEq, Repr

/-- The bytes of a field. -/
def Field.extent (base : Nat) (field : Field) : Extent := ⟨base + field.offset, field.width⟩

/-- The memory with the fields, stored from the first to the last. -/
def storeFields (memory : Memory) (base : Nat) : List Field → Memory
  | [] => memory
  | field :: fields =>
    storeFields (store memory (BitVec.ofNat 64 (base + field.offset)) field.width field.value) base
      fields

/-- The bytes are there, and their addresses do not wrap around. -/
def Addressable (extent : Extent) : Prop := 0 < extent.size ∧ extent.stop ≤ 2 ^ 64

section Fields
variable {memory : Memory} {base address width count value : Nat} {fields : List Field}

theorem gap_of_apart (hfirst : Addressable ⟨address, width⟩) (hsecond : Addressable ⟨base, count⟩)
    (hapart : Apart ⟨address, width⟩ ⟨base, count⟩) :
    width ≤ gap (BitVec.ofNat 64 address) (BitVec.ofNat 64 base) := by
  unfold Addressable Extent.stop at hfirst hsecond
  unfold Apart Extent.stop at hapart
  dsimp only at hfirst hsecond hapart
  rw [gap, BitVec.toNat_sub, BitVec.toNat_ofNat, BitVec.toNat_ofNat]
  omega

/-- A load apart from a store, by their extents. -/
theorem load_store_extent (hstore : Addressable ⟨address, width⟩)
    (hload : Addressable ⟨base, count⟩) (hapart : Apart ⟨address, width⟩ ⟨base, count⟩) :
    load (store memory (BitVec.ofNat 64 address) width value) (BitVec.ofNat 64 base) count =
      load memory (BitVec.ofNat 64 base) count :=
  load_store_apart (gap_of_apart hstore hload hapart) (gap_of_apart hload hstore hapart.symm)

/-- What is apart from the fields is not changed. -/
theorem load_storeFields_apart
    (hfields : ∀ field ∈ fields, Addressable (field.extent base))
    (hload : Addressable ⟨address, count⟩)
    (hapart : ∀ field ∈ fields, Apart (field.extent base) ⟨address, count⟩) :
    load (storeFields memory base fields) (BitVec.ofNat 64 address) count =
      load memory (BitVec.ofNat 64 address) count := by
  induction fields generalizing memory with
  | nil => rfl
  | cons field fields ih =>
    rw [List.forall_mem_cons] at hfields hapart
    rw [storeFields, ih hfields.2 hapart.2]
    exact load_store_extent hfields.1 hload hapart.1

/-- A field is read back. -/
theorem load_storeFields (hfields : ∀ field ∈ fields, Addressable (field.extent base))
    (hapart : fields.Pairwise fun first second =>
      Apart (first.extent base) (second.extent base))
    {field : Field} (hmem : field ∈ fields) :
    load (storeFields memory base fields) (BitVec.ofNat 64 (base + field.offset)) field.width =
      field.value % 256 ^ field.width := by
  induction fields generalizing memory with
  | nil => cases hmem
  | cons head fields ih =>
    rw [List.forall_mem_cons] at hfields
    rw [List.pairwise_cons] at hapart
    rw [storeFields]
    obtain rfl | hmem := List.mem_cons.mp hmem
    · rw [load_storeFields_apart hfields.2 hfields.1 fun other hother =>
        (hapart.1 other hother).symm]
      refine load_store ?_
      have hspace := hfields.1.2
      unfold Field.extent Extent.stop at hspace
      exact Nat.le_trans (Nat.le_add_left _ _) hspace
    · exact ih hfields.2 hapart.2 hmem

end Fields

end DartPlant.ByteMemory
