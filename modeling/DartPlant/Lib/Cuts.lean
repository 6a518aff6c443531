import Mathlib.Data.List.Flatten
import Mathlib.Data.List.GetD
import Mathlib.Data.Nat.Find

/-! # Cutting a range at sorted places

A strictly sorted list that begins with 0 cuts `0, …, n - 1` into blocks: block `b` runs from the
cut `b` to the next one, or to `n`.  Every number lies in exactly one block, no cut lies inside of
one, and the blocks one after the other are the whole range.
-/

namespace Cuts

/-- The first number of a block; past the last block, the end of the range. -/
def start (cuts : List ℕ) (n block : ℕ) : ℕ := cuts.getD block n

/-- The cuts are sorted, begin with 0 and stay below `n`. -/
structure Partition (cuts : List ℕ) (n : ℕ) : Prop where
  sorted : cuts.Pairwise (· < ·)
  zero : 0 < n → 0 ∈ cuts
  below : ∀ cut ∈ cuts, cut < n

variable {cuts : List ℕ} {n block i : ℕ}

theorem start_of_lt (h : block < cuts.length) : start cuts n block = cuts[block] :=
  List.getD_eq_getElem cuts n h

theorem start_of_le (h : cuts.length ≤ block) : start cuts n block = n :=
  List.getD_eq_default cuts n h

theorem start_mem (h : block < cuts.length) : start cuts n block ∈ cuts := by
  rw [start_of_lt h]
  exact List.getElem_mem h

namespace Partition

theorem start_le (h : Partition cuts n) (block : ℕ) : start cuts n block ≤ n := by
  by_cases hblock : block < cuts.length
  · exact Nat.le_of_lt (h.below _ (start_mem hblock))
  · rw [start_of_le (Nat.not_lt.mp hblock)]

theorem start_lt_start (h : Partition cuts n) {b c : ℕ} (hbc : b < c) (hb : b < cuts.length) :
    start cuts n b < start cuts n c := by
  by_cases hc : c < cuts.length
  · rw [start_of_lt hb, start_of_lt hc]
    exact List.pairwise_iff_getElem.mp h.sorted b c hb hc hbc
  · rw [start_of_le (Nat.not_lt.mp hc)]
    exact h.below _ (start_mem hb)

theorem start_zero (h : Partition cuts n) : start cuts n 0 = 0 := by
  by_cases hn : 0 < n
  · obtain ⟨block, hblock, hzero⟩ := List.mem_iff_getElem.mp (h.zero hn)
    rw [← start_of_lt (n := n) hblock] at hzero
    by_contra hne
    have hpos : 0 < block := Nat.pos_of_ne_zero fun heq => hne (heq ▸ hzero)
    have hlt := h.start_lt_start hpos (Nat.lt_trans hpos hblock)
    omega
  · have hle := h.start_le 0
    omega

/-- Every number of the range lies in a block. -/
theorem exists_block (h : Partition cuts n) (hi : i < n) :
    ∃ block < cuts.length, start cuts n block ≤ i ∧ i < start cuts n (block + 1) := by
  have hsome : ∃ block, i < start cuts n block := ⟨cuts.length, (start_of_le le_rfl).symm ▸ hi⟩
  have hfound := Nat.find_spec hsome
  cases hblock : Nat.find hsome with
  | zero =>
    rw [hblock, h.start_zero] at hfound
    exact absurd hfound (Nat.not_lt_zero i)
  | succ block =>
    rw [hblock] at hfound
    have hbefore : start cuts n block ≤ i :=
      Nat.not_lt.mp (Nat.find_min hsome (hblock ▸ Nat.lt_succ_self block))
    refine ⟨block, ?_, hbefore, hfound⟩
    by_contra hge
    rw [start_of_le (Nat.not_lt.mp hge)] at hbefore
    omega

theorem block_unique (h : Partition cuts n) {b c : ℕ} (hb : b < cuts.length) (hc : c < cuts.length)
    (hbi : start cuts n b ≤ i ∧ i < start cuts n (b + 1))
    (hci : start cuts n c ≤ i ∧ i < start cuts n (c + 1)) : b = c := by
  by_contra hne
  have hle : ∀ {p q : ℕ}, p < q → p < cuts.length → start cuts n (p + 1) ≤ start cuts n q := by
    intro p q hpq hp
    obtain heq | hlt := Nat.eq_or_lt_of_le (Nat.succ_le_of_lt hpq)
    · exact Nat.le_of_eq (congrArg _ heq)
    · by_cases hp' : p + 1 < cuts.length
      · exact Nat.le_of_lt (h.start_lt_start hlt hp')
      · rw [start_of_le (Nat.not_lt.mp hp'), start_of_le (by omega)]
  obtain hlt | hlt := Nat.lt_or_gt_of_ne hne
  · have := hle hlt hb
    omega
  · have := hle hlt hc
    omega

/-- A cut inside of a block is its start. -/
theorem eq_start (h : Partition cuts n) (hblock : block < cuts.length) (hcut : i ∈ cuts)
    (hi : start cuts n block ≤ i ∧ i < start cuts n (block + 1)) : i = start cuts n block := by
  obtain ⟨c, hc, heq⟩ := List.mem_iff_getElem.mp hcut
  rw [← start_of_lt (n := n) hc] at heq
  have hci : start cuts n c ≤ i ∧ i < start cuts n (c + 1) :=
    ⟨Nat.le_of_eq heq, heq ▸ h.start_lt_start (Nat.lt_succ_self c) hc⟩
  rw [h.block_unique hblock hc hi hci, heq]

/-- The blocks are the range. -/
theorem flatMap_blocks (h : Partition cuts n) : (List.range cuts.length).flatMap (fun block =>
    List.range' (start cuts n block) (start cuts n (block + 1) - start cuts n block)) =
      List.range n := by
  have hbegin : ∀ k ≤ cuts.length, (List.range k).flatMap (fun block =>
      List.range' (start cuts n block) (start cuts n (block + 1) - start cuts n block)) =
        List.range (start cuts n k) := by
    intro k hk
    induction k with
    | zero => rw [h.start_zero]; rfl
    | succ k ih =>
      have hlt := h.start_lt_start (Nat.lt_succ_self k) hk
      rw [List.range_succ, List.flatMap_append, ih (Nat.le_of_succ_le hk), List.flatMap_singleton,
        List.range_eq_range', List.range_eq_range']
      have happend : List.range' 0 (start cuts n k) 1 ++
          List.range' (0 + 1 * start cuts n k) (start cuts n (k + 1) - start cuts n k) 1 =
          List.range' 0 (start cuts n k + (start cuts n (k + 1) - start cuts n k)) 1 :=
        List.range'_append
      rw [Nat.zero_add, Nat.one_mul, Nat.add_sub_cancel' (Nat.le_of_lt hlt)] at happend
      exact happend
  rw [hbegin _ le_rfl, start_of_le le_rfl]

end Partition

end Cuts
