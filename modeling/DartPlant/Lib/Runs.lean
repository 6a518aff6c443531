import Mathlib.Data.List.Basic
import Mathlib.Data.Option.Basic

/-! # Runs of a labelled partial step

A component is a function `step : σ → ℓ → Option σ`: in state `s` the action `a` is either not
enabled, `step s a = none`, or leads to the one state it leads to.  Nondeterminism is the choice of
the action, so a schedule is a list of actions and `run step s as` is the state after it.

An invariant is proved with `run_invariant` for every run, or with `run_invariant_of` for the runs
all of whose actions are allowed.

The last section is about total steps, whose runs are folds.  `Along` and `AlongSteps` say that
something holds in every state, or at every step, that a schedule passes through, and `along_iff`
is the rule for a property that fails exactly when a step of some kind is taken.
-/

namespace Runs
open List

universe u v
variable {σ : Type u} {ℓ : Type v}

/-- The state after the actions of a schedule, or `none` when one of them is not enabled. -/
def run (step : σ → ℓ → Option σ) : σ → List ℓ → Option σ
  | s, [] => some s
  | s, a :: as => (step s a).bind fun t => run step t as

variable {step : σ → ℓ → Option σ}

@[simp] theorem run_nil (s : σ) : run step s [] = some s := rfl

@[simp] theorem run_cons (s : σ) (a : ℓ) (as : List ℓ) :
    run step s (a :: as) = (step s a).bind fun t => run step t as := rfl

theorem run_cons_eq_some {s u : σ} {a : ℓ} {as : List ℓ} :
    run step s (a :: as) = some u ↔ ∃ t, step s a = some t ∧ run step t as = some u :=
  Option.bind_eq_some_iff

theorem run_append (s : σ) (as bs : List ℓ) :
    run step s (as ++ bs) = (run step s as).bind fun t => run step t bs := by
  induction as generalizing s with
  | nil => rfl
  | cons a as ih =>
    simp only [cons_append, run_cons]
    cases step s a with
    | none => rfl
    | some t => exact ih t

/-- A run of a composed schedule passes through the state between the two. -/
theorem run_append_eq_some {s u : σ} {as bs : List ℓ} :
    run step s (as ++ bs) = some u ↔ ∃ t, run step s as = some t ∧ run step t bs = some u := by
  rw [run_append, Option.bind_eq_some_iff]

theorem run_concat_eq_some {s u : σ} {as : List ℓ} {a : ℓ} :
    run step s (as ++ [a]) = some u ↔ ∃ t, run step s as = some t ∧ step t a = some u := by
  simp only [run_append_eq_some, run_cons_eq_some, run_nil, Option.some.injEq, exists_eq_right]

/-- What every allowed action preserves, every run of allowed actions preserves. -/
theorem run_invariant_of {allowed : ℓ → Prop} {I : σ → Prop}
    (hstep : ∀ s a t, I s → allowed a → step s a = some t → I t) {as : List ℓ} {s t : σ}
    (hallowed : ∀ a ∈ as, allowed a) (hs : I s) (hrun : run step s as = some t) : I t := by
  induction as generalizing s with
  | nil =>
    cases hrun
    exact hs
  | cons a as ih =>
    obtain ⟨u, hu, hrest⟩ := run_cons_eq_some.mp hrun
    have hI : I u := hstep s a u hs (hallowed a mem_cons_self) hu
    exact ih (fun b hb => hallowed b (mem_cons_of_mem a hb)) hI hrest

/-- What every action preserves, every run preserves. -/
theorem run_invariant {I : σ → Prop} (hstep : ∀ s a t, I s → step s a = some t → I t)
    {as : List ℓ} {s t : σ} (hs : I s) (hrun : run step s as = some t) : I t :=
  run_invariant_of (fun s a t hI (_ : True) h => hstep s a t hI h) (fun _ _ => trivial) hs hrun

/-! ## Total steps -/

variable {f : σ → ℓ → σ}

/-- The property holds in every state the schedule passes through, the first and the last
included. -/
def Along (f : σ → ℓ → σ) (P : σ → Prop) (s : σ) (as : List ℓ) : Prop :=
  ∀ pre, pre <+: as → P (pre.foldl f s)

/-- The relation holds of every step the schedule takes, between the state before it and its
action. -/
def AlongSteps (f : σ → ℓ → σ) (Q : σ → ℓ → Prop) (s : σ) (as : List ℓ) : Prop :=
  ∀ pre a, pre ++ [a] <+: as → Q (pre.foldl f s) a

@[simp] theorem along_nil {P : σ → Prop} {s : σ} : Along f P s [] ↔ P s := by
  simp only [Along, prefix_nil, forall_eq, foldl_nil]

@[simp] theorem along_cons {P : σ → Prop} {s : σ} {a : ℓ} {as : List ℓ} :
    Along f P s (a :: as) ↔ P s ∧ Along f P (f s a) as := by
  constructor
  · intro h
    refine ⟨h [] nil_prefix, fun pre hpre => ?_⟩
    exact h (a :: pre) (cons_prefix_cons.mpr ⟨rfl, hpre⟩)
  · rintro ⟨hs, hrest⟩ pre hpre
    cases pre with
    | nil => exact hs
    | cons b pre =>
      obtain ⟨rfl, htail⟩ := cons_prefix_cons.mp hpre
      exact hrest pre htail

@[simp] theorem alongSteps_nil {Q : σ → ℓ → Prop} {s : σ} : AlongSteps f Q s [] := by
  intro pre a h
  simp only [prefix_nil, append_eq_nil_iff, cons_ne_self, and_false] at h

@[simp] theorem alongSteps_cons {Q : σ → ℓ → Prop} {s : σ} {a : ℓ} {as : List ℓ} :
    AlongSteps f Q s (a :: as) ↔ Q s a ∧ AlongSteps f Q (f s a) as := by
  constructor
  · intro h
    refine ⟨h [] a (cons_prefix_cons.mpr ⟨rfl, nil_prefix⟩), fun pre b hpre => ?_⟩
    exact h (a :: pre) b (cons_prefix_cons.mpr ⟨rfl, hpre⟩)
  · rintro ⟨hs, hrest⟩ pre b hpre
    cases pre with
    | nil =>
      obtain ⟨rfl, -⟩ := cons_prefix_cons.mp hpre
      exact hs
    | cons c pre =>
      obtain ⟨rfl, htail⟩ := cons_prefix_cons.mp hpre
      exact hrest pre b htail

/-- A property with an invariant behind it holds along a schedule exactly when every step is good:
a good step keeps the invariant, and a step that is not good breaks the property in the state after
it.  `R` restricts the schedules the statement is about. -/
theorem along_iff {I P : σ → Prop} {R Q : σ → ℓ → Prop} (hP : ∀ s, I s → P s)
    (hgood : ∀ s a, I s → R s a → Q s a → I (f s a))
    (hbad : ∀ s a, I s → R s a → ¬ Q s a → ¬ P (f s a)) {s : σ} {as : List ℓ}
    (hR : AlongSteps f R s as) (hs : I s) : Along f P s as ↔ AlongSteps f Q s as := by
  induction as generalizing s with
  | nil => exact ⟨fun _ => alongSteps_nil, fun _ => along_nil.mpr (hP s hs)⟩
  | cons a as ih =>
    obtain ⟨hRa, hRrest⟩ := alongSteps_cons.mp hR
    rw [along_cons, alongSteps_cons]
    constructor
    · rintro ⟨-, hrest⟩
      have hQ : Q s a := by
        by_contra hQ
        exact hbad s a hs hRa hQ (hrest [] nil_prefix)
      exact ⟨hQ, (ih hRrest (hgood s a hs hRa hQ)).mp hrest⟩
    · rintro ⟨hQ, hrest⟩
      exact ⟨hP s hs, (ih hRrest (hgood s a hs hRa hQ)).mpr hrest⟩

/-- The same rule where a good step does something of its own as well, and a bad one fails to do it
or breaks the property after it. -/
theorem along_and_steps_iff {I P : σ → Prop} {R Q S : σ → ℓ → Prop} (hP : ∀ s, I s → P s)
    (hgood : ∀ s a, I s → R s a → Q s a → I (f s a) ∧ S s a)
    (hbad : ∀ s a, I s → R s a → ¬ Q s a → S s a → ¬ P (f s a)) {s : σ} {as : List ℓ}
    (hR : AlongSteps f R s as) (hs : I s) :
    Along f P s as ∧ AlongSteps f S s as ↔ AlongSteps f Q s as := by
  induction as generalizing s with
  | nil => exact ⟨fun _ => alongSteps_nil, fun _ => ⟨along_nil.mpr (hP s hs), alongSteps_nil⟩⟩
  | cons a as ih =>
    obtain ⟨hRa, hRrest⟩ := alongSteps_cons.mp hR
    rw [along_cons, alongSteps_cons, alongSteps_cons]
    constructor
    · rintro ⟨⟨-, hrest⟩, hS, hSrest⟩
      have hQ : Q s a := by
        by_contra hQ
        exact hbad s a hs hRa hQ hS (hrest [] nil_prefix)
      exact ⟨hQ, (ih hRrest (hgood s a hs hRa hQ).1).mp ⟨hrest, hSrest⟩⟩
    · rintro ⟨hQ, hrest⟩
      obtain ⟨hI, hS⟩ := hgood s a hs hRa hQ
      obtain ⟨halong, hsteps⟩ := (ih hRrest hI).mpr hrest
      exact ⟨⟨hP s hs, halong⟩, hS, hsteps⟩

theorem AlongSteps.of_prefix {Q : σ → ℓ → Prop} {s : σ} {as pre : List ℓ}
    (h : AlongSteps f Q s as) (hpre : pre <+: as) : AlongSteps f Q s pre :=
  fun before a hbefore => h before a (hbefore.trans hpre)

/-- What holds of every step of a schedule holds of those after any prefix of it. -/
theorem AlongSteps.after {Q : σ → ℓ → Prop} {s : σ} {as pre post : List ℓ}
    (h : AlongSteps f Q s as) (hpre : pre ++ post <+: as) :
    AlongSteps f Q (pre.foldl f s) post := by
  intro before a hbefore
  have hprefix : (pre ++ before) ++ [a] <+: as := by
    rw [append_assoc]
    exact ((prefix_append_right_inj pre).mpr hbefore).trans hpre
  have hstep := h (pre ++ before) a hprefix
  rwa [foldl_append] at hstep

/-- What every step preserves holds along every schedule. -/
theorem along_of_invariant {I : σ → Prop} {R : σ → ℓ → Prop}
    (hstep : ∀ s a, I s → R s a → I (f s a)) {s : σ} {as : List ℓ}
    (hR : AlongSteps f R s as) (hs : I s) : Along f I s as := by
  induction as generalizing s with
  | nil => exact along_nil.mpr hs
  | cons a as ih =>
    obtain ⟨hRa, hRrest⟩ := alongSteps_cons.mp hR
    exact along_cons.mpr ⟨hs, ih hRrest (hstep s a hs hRa)⟩

end Runs
