import OutlineLint.Proofs.Outline.Headers
import OutlineLint.Proofs.Text.Trailing

/-!
# Outlines and trailing blanks

What a line contributes to an outline does not depend on the blanks that it ends
in.  The one place where these are kept is the record of the section headers,
which holds the lines as they are.  So texts with the same lines, but for
trailing blanks, have the same outline, but for the section headers recorded.
-/

namespace OutlineLint

/-- The section without the lines that opened it. -/
def Section.withoutHeaderLines (opened : Section) : Section :=
  { opened with headerLines := [] }

/-- The outline without the lines that opened its sections. -/
def Outline.withoutHeaderLines (outline : Outline) : Outline :=
  { outline with sections := outline.sections.map Section.withoutHeaderLines }

namespace OutlineLine

open Text

/-! ## Classes of trimmed lines -/

theorem indented_trimRight_iff (spaces : Nat) (line : Text) :
    Indented spaces (trimRight line) ↔ Indented spaces line := by
  constructor
  · rintro ⟨first, rest, shape, visible⟩
    obtain ⟨blanks, _, whole⟩ := exists_trailing line
    refine ⟨first, rest ++ blanks, ?_, visible⟩
    rw [whole, shape, List.append_assoc, List.cons_append]
  · rintro ⟨first, rest, rfl, visible⟩
    exact ⟨first, trimRight rest, trimRight_append_cons visible _ rest, visible⟩

theorem isSectionHeader_trimRight_iff (line : Text) :
    IsSectionHeader (trimRight line) ↔ IsSectionHeader line :=
  indented_trimRight_iff 0 line

theorem isSubsectionHeader_trimRight_iff (line : Text) :
    IsSubsectionHeader (trimRight line) ↔ IsSubsectionHeader line := by
  rw [IsSubsectionHeader, IsSubsectionHeader, indented_trimRight_iff,
    trim_trimRight]

theorem isEntry_trimRight_iff (line : Text) :
    IsEntry (trimRight line) ↔ IsEntry line := by
  simp only [IsEntry, indented_trimRight_iff, trim_trimRight]

end OutlineLine

namespace Layout

open OutlineLine Text

theorem keepsHeaders_trimRight : KeepsHeaders trimRight where
  isSectionHeader_iff := isSectionHeader_trimRight_iff
  isSubsectionHeader_iff := isSubsectionHeader_trimRight_iff
  firstWord line _ := firstWord_trimRight line
  trim line _ := trim_trimRight line

/--
A line with a visible character makes the same item whatever blanks it ends in.
-/
theorem itemOf_map_trimRight
    {spaces : Nat} {line : Text} (indented : Indented spaces line)
    (above : List Text) :
    itemOf (above.map trimRight) (trimRight line) = itemOf above line := by
  have trimmedIndented := (indented_trimRight_iff spaces line).mpr indented
  rw [itemOf_of_indented indented, itemOf_of_indented trimmedIndented,
    trim_trimRight, List.length_map]

/-! ## What trimmed lines contribute -/

theorem entries_map_trimRight (scope : Scope) (lines : List Text) :
    entries scope (lines.map trimRight) = entries scope lines := by
  apply collect_map_of_same
  intro above line
  simp only [isEntry_trimRight_iff, keepsHeaders_trimRight.scopeBelow?_map]
  apply ite_congr rfl
  · intro isEntry
    obtain ⟨spaces, indented⟩ := isEntry.1.exists_indented
    rw [itemOf_map_trimRight indented]
  · exact fun _ => rfl

theorem subsectionOf_map_trimRight (sectionName : Text) (lines : List Text) :
    subsectionOf sectionName (lines.map trimRight) =
      subsectionOf sectionName lines := by
  funext name
  simp only [subsectionOf, subsectionPosition,
    keepsHeaders_trimRight.subsectionHeaders_map, entries_map_trimRight]

theorem withoutHeaderLines_sections_map_trimRight (lines : List Text) :
    (sections (lines.map trimRight)).map Section.withoutHeaderLines =
      (sections lines).map Section.withoutHeaderLines := by
  rw [sections, sections, keepsHeaders_trimRight.sectionNames_map, List.map_map,
    List.map_map]
  apply List.map_congr_left
  intro name _
  simp only [Function.comp_apply, sectionOf, Section.withoutHeaderLines,
    subsectionNames, keepsHeaders_trimRight.subsectionHeaders_map,
    subsectionOf_map_trimRight, entries_map_trimRight,
    keepsHeaders_trimRight.repeatedHeaders_map]

end Layout

end OutlineLint
