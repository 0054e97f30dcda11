import Mathlib.Data.List.Perm.Basic
import OutlineLint.Proofs.Outline.Attachment

/-!
# Rows of a section

What a section has comes from lines that stand below one of its headers: an item
from an entry, and a repeated header from a subsection header, which has above
it a header of the same text in the same section.  Everything is in the order of
the rows, and no row gives two things.
-/

namespace OutlineLint.Layout

open OutlineLine

/--
The line stands in the row, and the nearest section
header above it has the name.
-/
def StandsIn
    (lines : List Text) (sectionName : Text) (row : Int) (line : Text) : Prop :=
  ∃ above below : List Text,
    lines = above ++ line :: below ∧ row = above.length + 1 ∧
      sectionAbove? above = some sectionName

/-- The item is made by a line of the class in the sections of the name. -/
def MadeIn
    (lines : List Text) (sectionName : Text) (isOfClass : Text → Prop)
    (item : Item) :
    Prop :=
  ∃ line : Text,
    StandsIn lines sectionName item.position.row line ∧ isOfClass line ∧
      item.text = line.trim

theorem StandsIn.unique
    {lines : List Text} {sectionName otherName : Text} {row : Int}
    {line other : Text} (stands : StandsIn lines sectionName row line)
    (otherStands : StandsIn lines otherName row other) :
    line = other ∧ sectionName = otherName := by
  obtain ⟨above, below, whole, rowEq, isAbove⟩ := stands
  obtain ⟨otherAbove, otherBelow, otherWhole, otherRowEq, isOtherAbove⟩ :=
    otherStands
  have sameLength : above.length = otherAbove.length := by omega
  obtain ⟨rfl, rfl⟩ := eq_of_length_eq (whole.symm.trans otherWhole) sameLength
  rw [isAbove, Option.some.injEq] at isOtherAbove
  exact ⟨rfl, isOtherAbove⟩

theorem StandsIn.mem_sectionNames
    {lines : List Text} {sectionName line : Text} {row : Int}
    (stands : StandsIn lines sectionName row line) :
    sectionName ∈ sectionNames lines := by
  obtain ⟨above, below, rfl, _, isAbove⟩ := stands
  exact mem_sectionNames_append isAbove _

/-! ## Items -/

theorem madeIn_of_mem_entries
    {scope : Scope} {lines : List Text} {item : Item}
    (member : item ∈ entries scope lines) :
    MadeIn lines scope.sectionName IsEntry item := by
  obtain ⟨above, line, below, whole, picked⟩ :=
    (mem_collect_iff _ _ _).mp member
  split at picked
  · next isEntry =>
      cases picked
      obtain ⟨sectionName, isAbove, rfl⟩ := Option.map_eq_some_iff.mp isEntry.2
      exact ⟨line, ⟨above, below, whole, rfl, isAbove⟩, isEntry.1, rfl⟩
  · cases picked

theorem exists_madeIn_of_mem_allEntries
    {lines : List Text} {item : Item} (member : item ∈ allEntries lines) :
    ∃ sectionName : Text, MadeIn lines sectionName IsEntry item := by
  obtain ⟨above, line, below, whole, picked⟩ :=
    (mem_collect_iff _ _ _).mp member
  split at picked
  · next isEntry =>
      cases picked
      obtain ⟨sectionName, isAbove⟩ := Option.ne_none_iff_exists'.mp isEntry.2
      exact
        ⟨sectionName, line, ⟨above, below, whole, rfl, isAbove⟩, isEntry.1, rfl⟩
  · cases picked

/-! ## Subsection headers -/

theorem madeIn_of_mem_subsectionHeaders
    {sectionName : Text} {lines : List Text} {header : Item}
    (member : header ∈ subsectionHeaders sectionName lines) :
    MadeIn lines sectionName IsSubsectionHeader header := by
  obtain ⟨above, line, below, whole, picked⟩ :=
    (mem_collect_iff _ _ _).mp member
  split at picked
  · next isHeader =>
      cases picked
      exact ⟨line, ⟨above, below, whole, rfl, isHeader.2⟩, isHeader.1, rfl⟩
  · cases picked

theorem header_repeatedHeaders_sublist
    (sectionName : Text) (lines : List Text) :
    ((repeatedHeaders sectionName lines).map RepeatedHeader.header).Sublist
      (subsectionHeaders sectionName lines) := by
  induction lines using List.reverseRecOn with
  | nil => exact List.Sublist.refl []
  | append_singleton lines line ih =>
      rw [repeatedHeaders, collect_snoc, List.map_append, subsectionHeaders,
        collect_snoc]
      apply ih.append
      split
      · next repeats =>
          rw [if_pos ⟨repeats.1, repeats.2.1⟩]
          cases openingAbove? lines with
          | none => exact List.nil_sublist _
          | some opening => exact List.Sublist.refl _
      · exact List.nil_sublist _

theorem pairwise_rows_repeatedHeaders (sectionName : Text) (lines : List Text) :
    (repeatedHeaders sectionName lines).Pairwise fun first second =>
      first.header.position.row < second.header.position.row := by
  have ordered :
      ((repeatedHeaders sectionName lines).map RepeatedHeader.header).Pairwise
        fun first second => first.position.row < second.position.row :=
    (pairwise_rows_collect lines).sublist
      (header_repeatedHeaders_sublist sectionName lines)
  rw [List.pairwise_map] at ordered
  exact ordered

theorem madeIn_of_mem_recorded
    {sectionName : Text} {lines : List Text} {header : Item}
    (member :
      header ∈ (repeatedHeaders sectionName lines).map RepeatedHeader.header) :
    MadeIn lines sectionName IsSubsectionHeader header :=
  madeIn_of_mem_subsectionHeaders ((header_repeatedHeaders_sublist _ _).subset
    member)

/--
A repeated header stands below the header that its record
names, which says the same.
-/
theorem exists_opening_of_mem_repeatedHeaders
    {sectionName : Text} {lines : List Text} {again : RepeatedHeader}
    (member : again ∈ repeatedHeaders sectionName lines) :
    ∃ opening : Item,
      [opening, again.header].Sublist (subsectionHeaders sectionName lines) ∧
        SameHeader opening again.header ∧
        opening.position.row = again.firstRow := by
  obtain ⟨above, line, below, rfl, picked⟩ := (mem_collect_iff _ _ _).mp member
  split at picked
  · next repeats =>
      obtain ⟨isHeader, isAbove, repeatsAbove⟩ := repeats
      obtain ⟨opening, isOpening, rfl⟩ := Option.map_eq_some_iff.mp picked
      have isEarlier : opening ∈ subsectionHeaders sectionName above :=
        mem_subsectionHeaders_of_mem_headersAbove isAbove
          (mem_headersAbove_of_openingAbove? isOpening)
      have upToLine :
          [opening, itemOf above line].Sublist
            (subsectionHeaders sectionName (above ++ [line])) := by
        rw [subsectionHeaders_snoc isHeader, if_pos isAbove]
        exact (List.singleton_sublist.mpr isEarlier).append
          (List.Sublist.refl _)
      have further :
          subsectionHeaders sectionName (above ++ [line]) <+:
            subsectionHeaders sectionName (above ++ line :: below) := by
        rw [List.append_cons above line below]
        exact collect_prefix_append _ _ _
      exact ⟨opening, upToLine.trans further.sublist,
        (repeatsAbove_iff isOpening _).mp repeatsAbove, rfl⟩
  · cases picked

/-! ## All rows -/

/--
The items of a section and the headers that it has recorded, scope by scope.
-/
def mentioned (opened : Section) : List Item :=
  opened.items ++ opened.repeatedHeaders.map RepeatedHeader.header
    ++ opened.subsections.flatMap Subsection.items

theorem mentioned_perm (opened : Section) :
    (opened.allItems ++ opened.repeatedHeaders.map RepeatedHeader.header).Perm
      (mentioned opened) := by
  rw [mentioned, Section.allItems, List.append_assoc, List.append_assoc]
  exact List.perm_append_comm.append_left _

/-- The sections record no two headers from one row. -/
theorem nodup_rows_recorded (lines : List Text) :
    (((sections lines).flatMap fun opened =>
        opened.repeatedHeaders.map RepeatedHeader.header).map
          (·.position.row)).Nodup := by
  rw [sections, List.flatMap_map, List.map_flatMap, List.nodup_flatMap]
  constructor
  · intro name _
    rw [List.map_map, List.Nodup, List.pairwise_map]
    exact (pairwise_rows_repeatedHeaders name lines).imp fun before =>
      Int.ne_of_lt before
  · apply (nodup_eraseDups (sectionNames lines)).imp
    intro name otherName different row isRow isOtherRow
    obtain ⟨header, recorded, rfl⟩ := List.mem_map.mp isRow
    obtain ⟨other, otherRecorded, sameRow⟩ := List.mem_map.mp isOtherRow
    obtain ⟨line, stands, _⟩ := madeIn_of_mem_recorded recorded
    obtain ⟨otherLine, otherStands, _⟩ := madeIn_of_mem_recorded otherRecorded
    rw [sameRow] at otherStands
    exact different (stands.unique otherStands).2

/-- No row gives a section two items, two recorded headers, or one of both. -/
theorem nodup_rows_mentioned (lines : List Text) :
    (((sections lines).flatMap mentioned).map (·.position.row)).Nodup := by
  have apart :
      ((sections lines).flatMap Section.allItems ++
          (sections lines).flatMap fun opened =>
            opened.repeatedHeaders.map RepeatedHeader.header).Perm
        ((sections lines).flatMap mentioned) :=
    (List.flatMap_append_perm _ _ _).trans
      (List.Perm.flatMap_left _ fun opened _ => mentioned_perm opened)
  have conserved :
      ((sections lines).flatMap Section.allItems).Perm (allEntries lines) :=
    allItems_draft lines
  rw [← (apart.map _).nodup_iff, List.map_append, List.nodup_append]
  refine ⟨?_, nodup_rows_recorded lines, ?_⟩
  · rw [(conserved.map _).nodup_iff]
    exact nodup_rows_allEntries lines
  · intro row isRow otherRow isOtherRow sameRow
    obtain ⟨item, isItem, rfl⟩ := List.mem_map.mp isRow
    obtain ⟨header, recorded, rfl⟩ := List.mem_map.mp isOtherRow
    obtain ⟨name, line, stands, isEntry, _⟩ :=
      exists_madeIn_of_mem_allEntries (conserved.mem_iff.mp isItem)
    obtain ⟨opened, isSection, inSection⟩ := List.mem_flatMap.mp recorded
    obtain ⟨otherName, _, rfl⟩ := (mem_sections_iff _ _).mp isSection
    obtain ⟨otherLine, otherStands, isHeader, _⟩ :=
      madeIn_of_mem_recorded inSection
    rw [← sameRow] at otherStands
    obtain ⟨rfl, _⟩ := stands.unique otherStands
    exact isHeader.not_isEntry isEntry

end OutlineLint.Layout
