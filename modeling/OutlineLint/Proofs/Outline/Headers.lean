import OutlineLint.Proofs.Outline.Growth

/-!
# What the headers of a text decide

The names of sections and subsections, the headers above a line and the repeated
headers are read off the header lines and their rows.  A change of the lines
that keeps the headers keeps all of these.  So any line can stand in the place
of a line that is no header.
-/

namespace OutlineLint

open OutlineLine

/-- The line opens a section or a subsection. -/
def OutlineLine.IsHeader (line : Text) : Prop :=
  IsSectionHeader line ∨ IsSubsectionHeader line

instance : DecidablePred IsHeader := fun line =>
  inferInstanceAs (Decidable (IsSectionHeader line ∨ IsSubsectionHeader line))

namespace Layout

/--
A change of single lines that keeps the class of a header, and what it says.
-/
structure KeepsHeaders (change : Text → Text) : Prop where
  isSectionHeader_iff :
    ∀ line : Text, IsSectionHeader (change line) ↔ IsSectionHeader line
  isSubsectionHeader_iff :
    ∀ line : Text, IsSubsectionHeader (change line) ↔ IsSubsectionHeader line
  firstWord :
    ∀ line : Text, IsSectionHeader line →
      (change line).firstWord = line.firstWord
  trim : ∀ line : Text, IsSubsectionHeader line → (change line).trim = line.trim

/--
Changing every line changes nothing that is picked, if
no single pick is changed.
-/
theorem collect_map_of_same
    {α : Type} {pick : List Text → Text → Option α} {change : Text → Text}
    (same : ∀ (above : List Text) (line : Text),
      pick (above.map change) (change line) = pick above line)
    (lines : List Text) :
    collect pick (lines.map change) = collect pick lines := by
  induction lines using List.reverseRecOn with
  | nil => rfl
  | append_singleton lines line ih =>
      rw [List.map_append, List.map_singleton, collect_snoc, collect_snoc, ih,
        same]

namespace KeepsHeaders

variable {change : Text → Text} (keeps : KeepsHeaders change)

include keeps

/-! ## Above a changed line -/

theorem sectionAbove?_map (above : List Text) :
    sectionAbove? (above.map change) = sectionAbove? above := by
  induction above using List.reverseRecOn with
  | nil => rfl
  | append_singleton above line ih =>
      rw [List.map_append, List.map_singleton, sectionAbove?_snoc,
        sectionAbove?_snoc, ih]
      simp only [keeps.isSectionHeader_iff]
      by_cases isHeader : IsSectionHeader line
      · rw [keeps.firstWord line isHeader]
      · rw [if_neg isHeader, if_neg isHeader]

theorem itemOf_map
    (above : List Text) {line : Text} (isHeader : IsSubsectionHeader line) :
    itemOf (above.map change) (change line) = itemOf above line := by
  have changed := (keeps.isSubsectionHeader_iff line).mpr isHeader
  rw [itemOf_of_indented isHeader.1, itemOf_of_indented changed.1,
    keeps.trim line isHeader, List.length_map]

theorem headersAbove_map (above : List Text) :
    headersAbove (above.map change) = headersAbove above := by
  induction above using List.reverseRecOn with
  | nil => rfl
  | append_singleton above line ih =>
      rw [List.map_append, List.map_singleton, headersAbove_snoc,
        headersAbove_snoc, ih]
      simp only [keeps.isSectionHeader_iff, keeps.isSubsectionHeader_iff]
      by_cases isSubsection : IsSubsectionHeader line
      · rw [keeps.itemOf_map above isSubsection]
      · rw [if_neg isSubsection, if_neg isSubsection]

theorem scopeBelow?_map (above : List Text) :
    scopeBelow? (above.map change) = scopeBelow? above := by
  rw [scopeBelow?, keeps.sectionAbove?_map, keeps.headersAbove_map, scopeBelow?]

theorem openingAbove?_map (above : List Text) :
    openingAbove? (above.map change) = openingAbove? above := by
  rw [openingAbove?, keeps.headersAbove_map, openingAbove?]

theorem repeatsAbove_map_iff (above : List Text) (header : Item) :
    RepeatsAbove (above.map change) header ↔ RepeatsAbove above header := by
  rw [RepeatsAbove, keeps.headersAbove_map, RepeatsAbove]

/-! ## What changed lines contribute -/

theorem sectionNames_map (lines : List Text) :
    sectionNames (lines.map change) = sectionNames lines := by
  induction lines using List.reverseRecOn with
  | nil => rfl
  | append_singleton lines line ih =>
      rw [List.map_append, List.map_singleton, sectionNames_snoc,
        sectionNames_snoc, ih]
      simp only [keeps.isSectionHeader_iff]
      by_cases isHeader : IsSectionHeader line
      · rw [keeps.firstWord line isHeader]
      · rw [if_neg isHeader, if_neg isHeader]

theorem subsectionHeaders_map (sectionName : Text) (lines : List Text) :
    subsectionHeaders sectionName (lines.map change) =
      subsectionHeaders sectionName lines := by
  apply collect_map_of_same
  intro above line
  simp only [keeps.isSubsectionHeader_iff, keeps.sectionAbove?_map]
  apply ite_congr rfl
  · intro isHeader
    rw [keeps.itemOf_map above isHeader.1]
  · exact fun _ => rfl

theorem repeatedHeaders_map (sectionName : Text) (lines : List Text) :
    repeatedHeaders sectionName (lines.map change) =
      repeatedHeaders sectionName lines := by
  apply collect_map_of_same
  intro above line
  simp only [keeps.isSubsectionHeader_iff, keeps.sectionAbove?_map,
    keeps.repeatsAbove_map_iff, keeps.openingAbove?_map]
  -- Whether the header repeats is asked of the item that it makes.
  by_cases isSubsection : IsSubsectionHeader line
  · rw [keeps.itemOf_map above isSubsection]
  · rw [if_neg (fun all => isSubsection all.1),
      if_neg (fun all => isSubsection all.1)]

end KeepsHeaders

/-! ## Lines that are no headers -/

/-- The line if it is a header, and an empty line in its place if it is none. -/
def headerOnly (line : Text) : Text :=
  if IsHeader line then line else []

theorem headerOnly_of_isHeader {line : Text} (isHeader : IsHeader line) :
    headerOnly line = line :=
  if_pos isHeader

theorem headerOnly_of_not {line : Text} (notHeader : ¬ IsHeader line) :
    headerOnly line = [] :=
  if_neg notHeader

theorem not_isHeader_nil : ¬ IsHeader [] := by
  decide

theorem keepsHeaders_headerOnly : KeepsHeaders headerOnly := by
  have noHeader : ¬ IsSectionHeader [] ∧ ¬ IsSubsectionHeader [] :=
    not_or.mp not_isHeader_nil
  constructor <;> intro line
  case isSectionHeader_iff =>
    by_cases isHeader : IsHeader line
    · rw [headerOnly_of_isHeader isHeader]
    · rw [headerOnly_of_not isHeader]
      exact iff_of_false noHeader.1 fun is => isHeader (Or.inl is)
  case isSubsectionHeader_iff =>
    by_cases isHeader : IsHeader line
    · rw [headerOnly_of_isHeader isHeader]
    · rw [headerOnly_of_not isHeader]
      exact iff_of_false noHeader.2 fun is => isHeader (Or.inr is)
  case firstWord =>
    intro isHeader
    rw [headerOnly_of_isHeader (Or.inl isHeader)]
  case trim =>
    intro isHeader
    rw [headerOnly_of_isHeader (Or.inr isHeader)]

/-- The lines are the same, or neither of them is a header. -/
def AlikeAsHeaders (line other : Text) : Prop :=
  line = other ∨ ¬ IsHeader line ∧ ¬ IsHeader other

theorem map_headerOnly_eq
    {lines others : List Text}
    (alike : List.Forall₂ AlikeAsHeaders lines others) :
    lines.map headerOnly = others.map headerOnly := by
  induction alike with
  | nil => rfl
  | cons first _ ih =>
      rw [List.map_cons, List.map_cons, ih]
      rcases first with rfl | ⟨notHeader, otherNot⟩
      · rfl
      · rw [headerOnly_of_not notHeader, headerOnly_of_not otherNot]

/--
Texts with the same headers in the same rows have the same repeated headers.
-/
theorem repeatedHeaders_congr
    {lines others : List Text}
    (alike : List.Forall₂ AlikeAsHeaders lines others) (sectionName : Text) :
    repeatedHeaders sectionName lines = repeatedHeaders sectionName others := by
  have keeps := keepsHeaders_headerOnly
  rw [← keeps.repeatedHeaders_map, map_headerOnly_eq alike,
    keeps.repeatedHeaders_map]

theorem sectionNames_congr
    {lines others : List Text}
    (alike : List.Forall₂ AlikeAsHeaders lines others) :
    sectionNames lines = sectionNames others := by
  have keeps := keepsHeaders_headerOnly
  rw [← keeps.sectionNames_map, map_headerOnly_eq alike, keeps.sectionNames_map]

end Layout

end OutlineLint
