import OutlineLint.Proofs.Duplicate.Justified
import OutlineLint.Proofs.Outline.Runs

/-!
# Duplicate headers

A subsection header is reported as a duplicate if the header before it, in the
same section, has the same text apart from case and names the same subsection.
The name is the first word, and its case counts: headers that differ in the case
of their first words open two subsections, and neither is a duplicate.
-/

namespace OutlineLint.Duplicate

open OutlineLine Layout

/-- A recorded header is reported in the scope of its section. -/
theorem finding_mem_findings_of_recorded
    {readAs text sectionName : Text} {again : RepeatedHeader}
    (isSection : sectionName ∈ sectionNames text.lines)
    (recorded : again ∈ repeatedHeaders sectionName text.lines) (file : Text) :
    Repetition.finding file sectionName ⟨again.header, again.firstRow⟩ ∈
      findings file (Outline.parse readAs text) := by
  rw [findings, parse_sections, List.mem_flatMap]
  refine ⟨_, (mem_sections_iff _ _).mpr ⟨sectionName, isSection, rfl⟩, ?_⟩
  exact List.mem_append_left _
    (List.mem_append_right _ (List.mem_map_of_mem recorded))

/-- A finding in the row of a subsection header is about a recorded header. -/
theorem exists_recorded_of_mem_findings
    {file readAs text sectionName line : Text} {finding : Finding}
    (member : finding ∈ findings file (Outline.parse readAs text))
    (stands : StandsIn text.lines sectionName finding.position.row line)
    (isHeader : IsSubsectionHeader line) :
    ∃ again ∈ repeatedHeaders sectionName text.lines,
      again.header.position = finding.position := by
  obtain ⟨opened, isSection, inSection⟩ := List.mem_flatMap.mp member
  rw [parse_sections] at isSection
  obtain ⟨name, _, rfl⟩ := (mem_sections_iff _ _).mp isSection
  obtain ⟨scope, repetition, reported, rfl⟩ :=
    exists_reportedIn_of_mem_sectionFindings inSection
  have notFromEntry {items : List Item}
      (made : ∀ item ∈ items, MadeIn text.lines name IsEntry item)
      (isIn : repetition ∈ repetitions items) : False := by
    obtain ⟨entry, entryStands, isEntry, _⟩ :=
      made _ (item_mem_of_mem_repetitions isIn)
    obtain ⟨rfl, _⟩ := stands.unique entryStands
    exact isHeader.not_isEntry isEntry
  cases reported with
  | own isOwn =>
      exact (notFromEntry (fun item => madeIn_of_mem_entries) isOwn).elim
  | inPart isPart isIn =>
      obtain ⟨part, _, rfl⟩ := (mem_subsections_iff _ _ _).mp isPart
      exact (notFromEntry (fun item => madeIn_of_mem_entries) isIn).elim
  | @header again isRecorded =>
      obtain ⟨other, otherStands, _⟩ :=
        madeIn_of_mem_recorded (List.mem_map_of_mem isRecorded)
      obtain ⟨_, rfl⟩ := stands.unique otherStands
      exact ⟨again, isRecorded, rfl⟩

/--
Of two headers that follow each other in a section and say the same apart from
case, the second is a duplicate in that section exactly if it repeats the first
word of the first letter for letter.
-/
theorem exists_finding_iff_firstWord_eq
    {text sectionName first second : Text} {firstRow secondRow : Int}
    (next : NextHeader text.lines firstRow first secondRow second)
    (stands : StandsIn text.lines sectionName firstRow first)
    (same : first.trim.lower = second.trim.lower) (file readAs : Text) :
    (∃ finding ∈ findings file (Outline.parse readAs text),
        finding.position.row = secondRow ∧
          ∃ (shown : Text) (shownRow : Int),
            finding.detail = .duplicate sectionName shown shownRow) ↔
      first.firstWord = second.firstWord := by
  have secondStands := next.standsIn stands
  constructor
  · rintro ⟨finding, member, rfl, _⟩
    obtain ⟨again, recorded, position⟩ :=
      exists_recorded_of_mem_findings member secondStands
        next.isSubsectionHeader
    obtain ⟨row, earlierRow, line, _, repeats, _, headerEq⟩ :=
      mem_repeatedHeaders_iff.mp recorded
    rw [headerEq] at position
    rw [← position] at next
    exact (next.same_of_repeatsRow repeats).1
  · intro sameWord
    have repeats : RepeatsRow text.lines firstRow secondRow :=
      ⟨first, second, next, sameWord, same⟩
    obtain ⟨shownRow, recorded⟩ := secondStands.exists_record repeats
    refine ⟨_,
      finding_mem_findings_of_recorded secondStands.mem_sectionNames
        recorded file,
      rfl, second.trim, shownRow, rfl⟩

/-- The headers differ in the case of the second word. -/
def redShoes : Text :=
  "shop\n  Red Shoes\n    size\n  Red shoes".toList

theorem redShoes_reported :
    NextHeader redShoes.lines 2 "  Red Shoes".toList 4 "  Red shoes".toList ∧
      StandsIn redShoes.lines "shop".toList 2 "  Red Shoes".toList ∧
        (Text.trim "  Red Shoes".toList).lower =
            (Text.trim "  Red shoes".toList).lower ∧
          ∃ finding ∈ findings [] (Outline.parse [] redShoes),
            finding.position.row = 4 ∧
              ∃ (shown : Text) (shownRow : Int),
                finding.detail = .duplicate "shop".toList shown shownRow := by
  have whole :
      redShoes.lines =
        ["shop".toList, "  Red Shoes".toList, "    size".toList,
          "  Red shoes".toList] := by
    decide +kernel
  have next :
      NextHeader redShoes.lines 2 "  Red Shoes".toList 4 "  Red shoes".toList :=
    ⟨["shop".toList], ["    size".toList], [], whole, rfl, rfl, by decide,
      by decide, by decide⟩
  have stands : StandsIn redShoes.lines "shop".toList 2 "  Red Shoes".toList :=
    ⟨["shop".toList], _, whole, rfl, by decide⟩
  have same :
      (Text.trim "  Red Shoes".toList).lower =
          (Text.trim "  Red shoes".toList).lower := by
    decide +kernel
  exact ⟨next, stands, same,
    (exists_finding_iff_firstWord_eq next stands same [] []).mpr (by decide)⟩

/-- The headers differ in the case of the first word. -/
def hotDrinks : Text :=
  "drinks\n  Hot\n  hot".toList

theorem hotDrinks_not_reported :
    NextHeader hotDrinks.lines 2 "  Hot".toList 3 "  hot".toList ∧
      StandsIn hotDrinks.lines "drinks".toList 2 "  Hot".toList ∧
        (Text.trim "  Hot".toList).lower = (Text.trim "  hot".toList).lower ∧
          findings [] (Outline.parse [] hotDrinks) = [] := by
  have whole :
      hotDrinks.lines = ["drinks".toList, "  Hot".toList, "  hot".toList] := by
    decide +kernel
  refine ⟨?_, ?_, ?_, ?_⟩
  · exact ⟨["drinks".toList], [], [], whole, rfl, rfl, by decide, by decide,
      by decide⟩
  · exact ⟨["drinks".toList], _, whole, rfl, by decide⟩
  · decide +kernel
  · decide +kernel

end OutlineLint.Duplicate
