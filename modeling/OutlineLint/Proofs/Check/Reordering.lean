import Mathlib.Data.List.Find
import OutlineLint.Proofs.Check.Renumbering
import OutlineLint.Proofs.Outline.Blocks

/-!
# The order of blocks

Duplicate entries are looked for in each section by itself, and a reference is
resolved in the whole outline, whatever the order of its sections, as long as no
two of them have one name in different spellings of case.  So a text that is put
together from blocks has the same findings in every order of the blocks, each in
the new rows of its block.

The findings come in the order of the text and are compared up to their order.
-/

namespace OutlineLint

/-! ## Outlines with the same parts -/

theorem Duplicate.findings_perm
    (file : Text) {first second : Outline} (same : first.SameParts second) :
    (findings file first).Perm (findings file second) :=
  same.sections.flatMap_right (sectionFindings file)

section Resolution

variable {first second : Outline} (same : first.SameParts second)
  (distinct : (first.sections.map (·.name.lower)).Nodup)

include same distinct

theorem Outline.sectionNamed?_of_sameParts (name : Text) :
    first.sectionNamed? name = second.sectionNamed? name := by
  apply List.find?_eq_find?_of_perm same.sections
  rintro opened ⟨member, named⟩ other ⟨otherMember, otherNamed⟩
  rw [decide_eq_true_eq] at named otherNamed
  exact List.inj_on_of_nodup_map distinct member otherMember
    (named.trans otherNamed.symm)

theorem Resolution.missing?_of_sameParts (trimmed : Text) :
    missing? first trimmed = missing? second trimmed := by
  simp only [missing?, Outline.sectionNamed?_of_sameParts same distinct]

theorem Resolution.findings_perm : (findings first).Perm (findings second) := by
  have findingEq : finding? first = finding? second := by
    funext reference
    rw [finding?, finding?, missing?_of_sameParts same distinct]
  rw [findings, findings, findingEq]
  exact same.references.filterMap _

end Resolution

/-! ## Blocks in another order -/

namespace Block

theorem lowerNames_outlineOf (file : Text) (blocks : List Block) :
    (outlineOf file blocks).sections.map (·.name.lower) =
      blocks.map (·.name.lower) := by
  have lowered := congrArg (List.map Text.lower) (names_outlineOf file blocks)
  rw [List.map_map, List.map_map] at lowered
  exact lowered

theorem distinct_names
    {blocks : List Block} (distinct : (blocks.map (·.name.lower)).Nodup) :
    (blocks.map name).Nodup := by
  apply List.Nodup.of_map Text.lower
  rw [List.map_map]
  exact distinct

/--
Blocks whose names differ, in whatever spelling of case, have the same duplicate
entries and the same unresolved references in every order, in their new rows.
-/
theorem findings_reordered
    (file : Text) {blocks reordered : List Block}
    (distinct : (blocks.map (·.name.lower)).Nodup)
    (same : reordered.Perm blocks) :
    (Duplicate.findings file (Outline.parse file (textOf reordered))).Perm
        ((Duplicate.findings file (Outline.parse file (textOf blocks))).map
          (·.renumber (movedRow blocks reordered))) ∧
      (Resolution.findings (Outline.parse file (textOf reordered))).Perm
        ((Resolution.findings (Outline.parse file (textOf blocks))).map
          (·.renumber (movedRow blocks reordered))) := by
  have reorderedDistinct : (reordered.map (·.name.lower)).Nodup :=
    (same.map _).nodup_iff.mpr distinct
  have readOriginal :
      Outline.parse file (textOf blocks) = outlineOf file blocks :=
    parse_textOf file (distinct_names distinct)
  have readChanged :
      Outline.parse file (textOf reordered) = outlineOf file reordered :=
    parse_textOf file (distinct_names reorderedDistinct)
  have parts := outlineOf_reordered file same
  have changedDistinct :
      ((outlineOf file reordered).sections.map (·.name.lower)).Nodup := by
    rw [lowerNames_outlineOf]
    exact reorderedDistinct
  rw [readOriginal, readChanged, ← Duplicate.findings_renumber,
    ← Resolution.findings_renumber]
  exact ⟨Duplicate.findings_perm file parts,
    Resolution.findings_perm parts changedDistinct⟩

/-- The drinks of a menu, one of them twice. -/
def drinks : Block where
  header := "drinks".toList
  body := ["    tea".toList, "    Tea".toList]
  isHeader := by decide
  noOther := by decide
  unbroken := by decide

/-- The meals of a menu, with a reference that fits no section. -/
def meals : Block where
  header := "meals".toList
  body := ["  cold".toList, "    [milk]".toList]
  isHeader := by decide
  noOther := by decide
  unbroken := by decide

/-- The meals are put above the drinks, which come three rows further down. -/
theorem findings_reordered_menu :
    ([drinks, meals].map (·.name.lower)).Nodup ∧
      [meals, drinks].Perm [drinks, meals] ∧
        (Duplicate.findings []
            (Outline.parse []
              "meals\n  cold\n    [milk]\ndrinks\n    tea\n    Tea".toList)).Perm
          [⟨[], ⟨6, 5⟩, .duplicate "drinks".toList "Tea".toList 5⟩] ∧
        (Resolution.findings
            (Outline.parse []
              "meals\n  cold\n    [milk]\ndrinks\n    tea\n    Tea".toList)).Perm
          [⟨[], ⟨3, 5⟩,
              .unresolved .unknownSection "milk".toList none none⟩] := by
  have distinct : ([drinks, meals].map (·.name.lower)).Nodup := by decide
  have same : [meals, drinks].Perm [drinks, meals] :=
    List.Perm.swap drinks meals []
  have swapped := findings_reordered [] distinct same
  have swappedText :
      textOf [meals, drinks] =
        "meals\n  cold\n    [milk]\ndrinks\n    tea\n    Tea".toList := by
    decide +kernel
  have duplicatesMoved :
      (Duplicate.findings [] (Outline.parse [] (textOf [drinks, meals]))).map
          (·.renumber (movedRow [drinks, meals] [meals, drinks])) =
        [⟨[], ⟨6, 5⟩, .duplicate "drinks".toList "Tea".toList 5⟩] := by
    decide +kernel
  have unresolvedMoved :
      (Resolution.findings (Outline.parse [] (textOf [drinks, meals]))).map
          (·.renumber (movedRow [drinks, meals] [meals, drinks])) =
        [⟨[], ⟨3, 5⟩,
            .unresolved .unknownSection "milk".toList none none⟩] := by
    decide +kernel
  rw [swappedText, duplicatesMoved, unresolvedMoved] at swapped
  exact ⟨distinct, same, swapped⟩

end Block

end OutlineLint
