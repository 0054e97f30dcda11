import Mathlib.Data.List.Flatten
import OutlineLint.Proofs.Duplicate.Sources
import OutlineLint.Proofs.Outline.Rows

/-!
# Duplicates and the lines that they compare

A duplicate is about two lines of the text.  They stand in the rows that it
names, in sections of one name, and they say the same apart from case and outer
blanks.  No line is the later one of two duplicates.
-/

namespace OutlineLint

open OutlineLine Layout

/--
The finding says of the line in its row that it repeats an earlier line.  The
scope is the name of the section that both stand in, alone or with the name of
one of its subsections.
-/
inductive Finding.RepeatsLine (lines : List Text) : Finding → Prop where
  | intro {file scope sectionName earlier line : Text} {position : Position}
      {firstRow : Int} (firstRow_pos : 1 ≤ firstRow)
      (firstRow_lt : firstRow < position.row)
      (first : StandsIn lines sectionName firstRow earlier)
      (again : StandsIn lines sectionName position.row line)
      (same : earlier.trim.lower = line.trim.lower)
      (inSection :
        scope = sectionName ∨
          ∃ part ∈ subsectionNames sectionName lines,
            scope = sectionName ++ '.' :: part) :
      RepeatsLine lines ⟨file, position, .duplicate scope line.trim firstRow⟩

/--
Two items of the same text, one below the other, are two lines of the same text.
-/
theorem Layout.repeatsLine_of_sublist
    {lines : List Text} {sectionName scope : Text} {isOfClass : Text → Prop}
    {items : List Item}
    (made : ∀ item ∈ items, MadeIn lines sectionName isOfClass item)
    (ordered :
      items.Pairwise fun first second =>
        first.position.row < second.position.row)
    {first again : Item} (pair : [first, again].Sublist items)
    (same : first.normalized = again.normalized)
    (inSection :
      scope = sectionName ∨
        ∃ part ∈ subsectionNames sectionName lines,
          scope = sectionName ++ '.' :: part)
    (file : Text) :
    Finding.RepeatsLine lines
      ⟨file, again.position,
        .duplicate scope again.text first.position.row⟩ := by
  obtain ⟨earlier, earlierStands, _, earlierText⟩ :=
    made first (pair.subset (by simp))
  obtain ⟨line, stands, _, lineText⟩ := made again (pair.subset (by simp))
  have rows : first.position.row < again.position.row :=
    List.rel_of_pairwise_cons (ordered.sublist pair) (by simp)
  have counted : 1 ≤ first.position.row := by
    obtain ⟨above, _, _, rowEq, _⟩ := earlierStands
    omega
  have sameLines : earlier.trim.lower = line.trim.lower := by
    rwa [Item.normalized, Item.normalized, earlierText, lineText,
      Text.trim_trim, Text.trim_trim] at same
  rw [lineText]
  exact .intro counted rows earlierStands stands sameLines inSection

namespace Duplicate

theorem ReportedIn.repeatsLine
    {lines : List Text} {sectionName scope : Text} {repetition : Repetition}
    (reported : ReportedIn (sectionOf lines sectionName) scope repetition)
    (file : Text) :
    (repetition.finding file scope).RepeatsLine lines := by
  cases reported with
  | own isOwn =>
      obtain ⟨first, pair, same, rowEq⟩ := exists_first_of_mem_repetitions isOwn
      rw [Repetition.finding, ← rowEq]
      exact repeatsLine_of_sublist (fun item => madeIn_of_mem_entries)
        (pairwise_rows_collect lines) pair same (Or.inl rfl) file
  | header isRecorded =>
      obtain ⟨opening, pair, same, rowEq⟩ :=
        exists_opening_of_mem_repeatedHeaders isRecorded
      rw [Repetition.finding, ← rowEq]
      exact repeatsLine_of_sublist (fun item => madeIn_of_mem_subsectionHeaders)
        (pairwise_rows_collect lines) pair same.2 (Or.inl rfl) file
  | inPart isPart isIn =>
      obtain ⟨name, known, rfl⟩ := (mem_subsections_iff _ _ _).mp isPart
      obtain ⟨first, pair, same, rowEq⟩ := exists_first_of_mem_repetitions isIn
      rw [Repetition.finding, ← rowEq]
      exact repeatsLine_of_sublist (fun item => madeIn_of_mem_entries)
        (pairwise_rows_collect lines) pair same (Or.inr ⟨name, known, rfl⟩) file

theorem repeatsLine_of_mem_findings
    {file text : Text} {finding : Finding}
    (member : finding ∈ findings file (Outline.parse file text)) :
    finding.RepeatsLine text.lines := by
  obtain ⟨opened, isSection, inSection⟩ := List.mem_flatMap.mp member
  rw [parse_sections] at isSection
  obtain ⟨sectionName, _, rfl⟩ := (mem_sections_iff _ _).mp isSection
  obtain ⟨scope, repetition, reported, rfl⟩ :=
    exists_reportedIn_of_mem_sectionFindings inSection
  exact reported.repeatsLine file

/-! ## One finding for a row -/

theorem map_row_scopeFindings_sublist (file scope : Text) (items : List Item) :
    ((scopeFindings file scope items).map (·.position.row)).Sublist
      (items.map (·.position.row)) := by
  have rows := (map_item_repetitionsAfter_sublist [] items).map (·.position.row)
  rw [List.map_map] at rows
  rw [scopeFindings, List.map_map]
  exact rows

/-- The rows of the findings of a section are rows of what it mentions. -/
theorem map_row_sectionFindings_sublist (file : Text) (opened : Section) :
    ((sectionFindings file opened).map (·.position.row)).Sublist
      ((mentioned opened).map (·.position.row)) := by
  simp only [sectionFindings, mentioned, List.map_append, List.map_flatMap,
    List.map_map]
  refine
    ((map_row_scopeFindings_sublist _ _ _).append (List.Sublist.refl _)).append
      ?_
  exact List.Sublist.flatMap_right _ fun part _ =>
    map_row_scopeFindings_sublist _ _ _

/-- No two duplicates of a text stand in one row. -/
theorem nodup_rows_findings (file text : Text) :
    ((findings file (Outline.parse file text)).map (·.position.row)).Nodup := by
  have mentionedRows :
      ((findings file (Outline.parse file text)).map (·.position.row)).Sublist
        (((sections text.lines).flatMap mentioned).map (·.position.row)) := by
    rw [findings, parse_sections, List.map_flatMap, List.map_flatMap]
    exact List.Sublist.flatMap_right _ fun opened _ =>
      map_row_sectionFindings_sublist file opened
  exact (nodup_rows_mentioned text.lines).sublist mentionedRows

end Duplicate

end OutlineLint
