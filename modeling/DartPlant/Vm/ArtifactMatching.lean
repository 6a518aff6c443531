import DartPlant.Lib.GreedyMatching
import DartPlant.Vm.FlutterVm

/-! # Artifact sets that are mapped

`ValidateArtifactSet` looks for a mapped module for the app and, one engine after the other, for an
unused module of each engine.  A module is an incarnation of at most one artifact: all it has, and a
build id that is not empty, is in the artifact.  So an engine that took a module could as well have
taken any other module of a later engine that wants the same one, and the loop finds a module for
every engine whenever there is a way to.
-/

namespace DartPlant
open GreedyMatching

/-! ## What a module is an incarnation of -/

theorem matchesModule_iff {expected : ArtifactIncarnation} {current : ModuleImage} :
    expected.matchesModule current = true ↔
      expected.buildId ≠ "" ∧ expected =
        ⟨current.name, current.path, current.buildId, current.loadBias,
          current.executableRanges⟩ := by
  obtain ⟨name, path, buildId, loadBias, executableRanges⟩ := expected
  simp only [ArtifactIncarnation.matchesModule, Bool.and_eq_true, beq_iff_eq,
    Bool.not_eq_true', beq_eq_false_iff_ne, ArtifactIncarnation.mk.injEq]
  constructor
  · intro ⟨⟨⟨⟨⟨⟨hname, hpath⟩, hbias⟩, hexpected⟩, _⟩, hbuild⟩, hranges⟩
    exact ⟨hexpected, hname, hpath, hbuild, hbias, hranges⟩
  · intro ⟨hexpected, hname, hpath, hbuild, hbias, hranges⟩
    have hcurrent : current.buildId ≠ "" := hbuild ▸ hexpected
    exact ⟨⟨⟨⟨⟨⟨hname, hpath⟩, hbias⟩, hexpected⟩, hcurrent⟩, hbuild⟩, hranges⟩

theorem matchesModule_interchangeable : Interchangeable ArtifactIncarnation.matchesModule := by
  intro left right shared other hleft hright hother
  have hsame : left = right :=
    (matchesModule_iff.mp hleft).2.trans (matchesModule_iff.mp hright).2.symm
  rwa [← hsame]

/-! ## The loop -/

theorem enginesMapped_eq_greedy (engines : List ArtifactIncarnation) (modules : List ModuleImage) :
    enginesMapped engines modules = greedy ArtifactIncarnation.matchesModule engines modules := by
  induction engines generalizing modules with
  | nil => rfl
  | cons engine engines ih =>
    rw [enginesMapped, greedy]
    cases modules.findIdx? (engine.matchesModule ·) with
    | none => rfl
    | some index => exact ih _

theorem validateArtifactSet_iff_matched {expected : ArtifactSet} {modules : List ModuleImage} :
    validateArtifactSet expected modules = true ↔
      (∃ module ∈ modules, expected.app.matchesModule module = true) ∧
        Matched ArtifactIncarnation.matchesModule expected.engines modules := by
  rw [validateArtifactSet, enginesMapped_eq_greedy, Bool.and_eq_true, List.any_eq_true,
    greedy_iff_matched matchesModule_interchangeable]

theorem validateArtifactSet_perm {expected : ArtifactSet} {engines : List ArtifactIncarnation}
    {modules mapped : List ModuleImage} (hengines : engines.Perm expected.engines)
    (hmapped : mapped.Perm modules) :
    validateArtifactSet ⟨expected.app, engines⟩ mapped = validateArtifactSet expected modules := by
  rw [Bool.eq_iff_iff, validateArtifactSet_iff_matched, validateArtifactSet_iff_matched]
  refine and_congr ⟨fun ⟨module, hmem, hmatch⟩ => ⟨module, hmapped.mem_iff.mp hmem, hmatch⟩,
    fun ⟨module, hmem, hmatch⟩ => ⟨module, hmapped.mem_iff.mpr hmem, hmatch⟩⟩ ?_
  exact ⟨fun h => h.perm hengines.symm hmapped, fun h => h.perm hengines hmapped.symm⟩

/-- An artifact set is accepted exactly when the app is mapped and the engines can be assigned to
different modules they match, in whatever order engines and modules are listed. -/
theorem artifact_set_accepts_matchings (expected : ArtifactSet) (modules : List ModuleImage) :
    (validateArtifactSet expected modules = true ↔
      (∃ module ∈ modules, expected.app.matchesModule module = true) ∧
        ∃ assign : Fin expected.engines.length → Fin modules.length, assign.Injective ∧
          ∀ engine : Fin expected.engines.length,
            expected.engines[engine].matchesModule modules[assign engine] = true) ∧
    ∀ (engines : List ArtifactIncarnation) (mapped : List ModuleImage),
      engines.Perm expected.engines → mapped.Perm modules →
      validateArtifactSet ⟨expected.app, engines⟩ mapped = validateArtifactSet expected modules :=
  ⟨validateArtifactSet_iff_matched, fun _ _ => validateArtifactSet_perm⟩

def mappedFile (file : String) (buildId : String) : ModuleImage := ⟨file, file, buildId, 0, []⟩

/-- An app and two engines of one file. -/
def twinEngines : ArtifactSet where
  app := ⟨"libapp.so", "libapp.so", "a1", 0, []⟩
  engines := List.replicate 2 ⟨"libflutter.so", "libflutter.so", "f1", 0, []⟩

/-- The two engines are mapped beside a module without a build id, wherever it is listed. -/
theorem artifact_set_accepts_matchings_twins :
    validateArtifactSet ⟨twinEngines.app, twinEngines.engines⟩
        [mappedFile "libflutter.so" "", mappedFile "libflutter.so" "f1",
          mappedFile "libapp.so" "a1", mappedFile "libflutter.so" "f1"] =
      validateArtifactSet twinEngines
        [mappedFile "libapp.so" "a1", mappedFile "libflutter.so" "f1",
          mappedFile "libflutter.so" "f1", mappedFile "libflutter.so" ""] :=
  (artifact_set_accepts_matchings _ _).2 _ _ (.refl _) (by decide)

end DartPlant
