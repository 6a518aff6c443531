import Mathlib.Data.List.Perm.Basic
import Mathlib.Data.List.Perm.Subperm
import Mathlib.Data.List.OfFn
import Mathlib.Data.List.FinRange

/-! # Matching greedily

Every element on the left wants an element on the right that is related to it, and no two of them
the same one.  `greedy` serves the left elements one after the other, each with the first related
element that is still there, and never goes back.

In general that can fail where a matching exists.  It does not when the relation is interchangeable:
two left elements that are both related to one right element are related to the same right elements,
so whoever was served with an element gives it up for any other it wanted.
-/

namespace DartPlant.GreedyMatching
open List

section Greedy
variable {α β : Type} (r : α → β → Bool)

/-- Each left element takes the first related element left over. -/
def greedy : List α → List β → Bool
  | [], _ => true
  | a :: as, bs =>
    match bs.findIdx? (r a) with
    | none => false
    | some index => greedy as (bs.eraseIdx index)

/-- The left elements can be assigned to different right elements. -/
def Matched (as : List α) (bs : List β) : Prop :=
  ∃ assign : Fin as.length → Fin bs.length, assign.Injective ∧ ∀ i, r as[i] bs[assign i] = true

/-- Left elements that share a right element are related to the same right elements. -/
def Interchangeable : Prop :=
  ∀ ⦃a a' : α⦄ ⦃b b' : β⦄, r a b = true → r a' b = true → r a b' = true → r a' b' = true

/-! ## Matchings as lists -/

/-- The right elements that serve the left ones, in the order of the left ones. -/
def Serves (as : List α) (bs : List β) (served : List β) : Prop :=
  List.Forall₂ (fun a b => r a b = true) as served ∧ served.Subperm bs

variable {r} {as as' : List α} {bs bs' served : List β} {a : α} {b : β}

theorem Matched.serves (h : Matched r as bs) : ∃ served, Serves r as bs served := by
  obtain ⟨assign, hinjective, hrelated⟩ := h
  refine ⟨(List.ofFn assign).map bs.get, ?_, ?_⟩
  · rw [forall₂_iff_get]
    refine ⟨by rw [length_map, length_ofFn], fun i hi hi' => ?_⟩
    have hserved : r as[i] bs[assign ⟨i, hi⟩] = true := hrelated ⟨i, hi⟩
    simpa only [get_eq_getElem, getElem_map, List.getElem_ofFn, Fin.getElem_fin]
      using hserved
  · have hnodup : (List.ofFn assign).Nodup := nodup_ofFn.mpr hinjective
    have hsub : (List.ofFn assign).Subperm (List.finRange bs.length) :=
      hnodup.subperm fun i _ => mem_finRange i
    obtain ⟨indices, hperm, hsublist⟩ := hsub
    refine ⟨indices.map bs.get, hperm.map bs.get, ?_⟩
    have hmapped := hsublist.map bs.get
    rwa [map_get_finRange] at hmapped

variable [DecidableEq β]

theorem Serves.matched (h : Serves r as bs served) : Matched r as bs := by
  obtain ⟨hrelated, hsub⟩ := h
  have hlength := hrelated.length_eq
  rw [forall₂_iff_get] at hrelated
  refine ⟨fun i => hsub.idxInj (i.cast hlength), ?_, fun i => ?_⟩
  · intro i j hij
    exact Fin.cast_injective hlength (hsub.idxInj_injective hij)
  · have hserved := hrelated.2 i i.2 (hlength ▸ i.2)
    have hat := hsub.getElem_idxInj_eq_getElem (i := i.cast hlength)
    simp only [Fin.getElem_fin] at hat ⊢
    rw [hat]
    exact hserved

theorem matched_iff_serves : Matched r as bs ↔ ∃ served, Serves r as bs served :=
  ⟨Matched.serves, fun ⟨_, h⟩ => h.matched⟩

omit [DecidableEq β] in
theorem Serves.perm (h : Serves r as bs served) (has : as'.Perm as) (hbs : bs.Perm bs') :
    ∃ served', Serves r as' bs' served' := by
  obtain ⟨hrelated, hsub⟩ := h
  obtain ⟨served', hrelated', hserved'⟩ := perm_comp_forall₂ has hrelated
  exact ⟨served', hrelated', (hserved'.subperm.trans hsub).trans hbs.subperm⟩

/-- Whether there is a matching does not depend on the order on either side. -/
theorem Matched.perm (h : Matched r as bs) (has : as'.Perm as) (hbs : bs.Perm bs') :
    Matched r as' bs' := by
  obtain ⟨served, hserves⟩ := h.serves
  exact matched_iff_serves.mpr (hserves.perm has hbs)

/-! ## The exchange -/

/-- Serving one more. -/
theorem Serves.cons (hab : r a b = true) (h : Serves r as (bs.erase b) served) (hb : b ∈ bs) :
    Serves r (a :: as) bs (b :: served) := by
  refine ⟨.cons hab h.1, ?_⟩
  have hsub : (b :: served).Subperm (b :: bs.erase b) := (subperm_cons b).mpr h.2
  exact hsub.trans (perm_cons_erase hb).symm.subperm

/-- Whoever was served with `b` takes what the first one had instead. -/
theorem Serves.exchange (hr : Interchangeable r) (hab : r a b = true)
    (h : Serves r (a :: as) bs served) : ∃ rest, Serves r as (bs.erase b) rest := by
  obtain ⟨hrelated, hsub⟩ := h
  cases hrelated with
  | @cons _ first _ rest hfirst hrest =>
    by_cases hmem : b ∈ rest
    · obtain ⟨front, back, rfl⟩ := append_of_mem hmem
      refine ⟨front ++ first :: back, ?_, ?_⟩
      · have hfront := forall₂_take_append as front (b :: back) hrest
        have hback := forall₂_drop_append as front (b :: back) hrest
        rw [← take_append_drop front.length as]
        refine rel_append hfront ?_
        generalize as.drop front.length = asBack at hback ⊢
        cases hback with
        | cons hserved hback => exact .cons (hr hab hserved hfirst) hback
      · have hperm : (b :: (front ++ first :: back)).Perm (first :: (front ++ b :: back)) := by
          refine ((perm_middle).cons b).trans ?_
          exact (List.Perm.swap first b _).trans (perm_middle.symm.cons first)
        have herased := (hperm.subperm.trans hsub).erase b
        rwa [erase_cons_head] at herased
    · have hsubRest : rest.Subperm bs := (sublist_cons_self first rest).subperm.trans hsub
      have herased := hsubRest.erase b
      rw [erase_of_not_mem hmem] at herased
      exact ⟨rest, hrest, herased⟩

/-- `greedy` misses no matching. -/
theorem greedy_iff_matched (hr : Interchangeable r) :
    greedy r as bs = true ↔ Matched r as bs := by
  rw [matched_iff_serves]
  induction as generalizing bs with
  | nil => exact ⟨fun _ => ⟨[], .nil, nil_subperm⟩, fun _ => rfl⟩
  | cons a as ih =>
    rw [greedy]
    split
    next hnone =>
      rw [List.findIdx?_eq_none_iff] at hnone
      refine ⟨fun h => Bool.noConfusion h, fun ⟨served, hserves⟩ => ?_⟩
      obtain ⟨hrelated, hsub⟩ := hserves
      cases hrelated with
      | @cons _ first _ rest hfirst hrest =>
        have hmem : first ∈ bs := hsub.subset mem_cons_self
        rw [hnone first hmem] at hfirst
        cases hfirst
    next index hsome =>
      obtain ⟨hindex, hab, -⟩ := List.findIdx?_eq_some_iff_getElem.mp hsome
      have hperm : (bs.eraseIdx index).Perm (bs.erase bs[index]) := by
        have hcons := getElem_cons_eraseIdx_perm hindex
        exact (hcons.trans (perm_cons_erase (getElem_mem hindex))).cons_inv
      rw [ih]
      constructor
      · intro ⟨served, hserves⟩
        obtain ⟨served', hserves'⟩ := hserves.perm (.refl as) hperm
        exact ⟨_, hserves'.cons hab (getElem_mem hindex)⟩
      · intro ⟨served, hserves⟩
        obtain ⟨rest, hrest⟩ := hserves.exchange hr hab
        exact hrest.perm (.refl as) hperm.symm

end Greedy

end DartPlant.GreedyMatching
