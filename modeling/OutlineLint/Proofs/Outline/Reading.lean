import OutlineLint.Outline.Parse
import OutlineLint.Proofs.Outline.Growth

/-!
# Reading makes the layout

The draft after the lines of a text is the layout of these lines, and so the
sections of a text are the layout of its lines.  One more line changes the draft
just as it changes the layout, for each class of lines.
-/

namespace OutlineLint.Layout

open OutlineLine

/-! ## Reading one more line -/

/-- Changing a section changes the layout of the sections at its name only. -/
theorem alter_sections
    (lines : List Text) (wanted : Text) (change : Section → Section)
    (changed : Text → Section)
    (others :
      ∀ other : Text, other ≠ wanted → changed other = sectionOf lines other)
    (atWanted : changed wanted = change (sectionOf lines wanted)) :
    Named.alter wanted (Section.empty wanted) change (sections lines) =
      (sectionNames lines ++ [wanted]).eraseDups.map changed :=
  alter_map_eraseDups wanted (Section.empty wanted) change (sectionNames lines)
    (sectionOf lines) changed (fun _ => rfl) others (fun _ => atWanted)
    (fun unknown => by rw [atWanted, sectionOf_eq_empty unknown])

/-- A section that stands above is changed without a new name. -/
theorem alter_sections_above
    {lines : List Text} {wanted : Text}
    (isAbove : sectionAbove? lines = some wanted)
    (change : Section → Section) (changed : Text → Section)
    (others :
      ∀ other : Text, other ≠ wanted → changed other = sectionOf lines other)
    (atWanted : changed wanted = change (sectionOf lines wanted)) :
    Named.alter wanted (Section.empty wanted) change (sections lines) =
      (sectionNames lines).eraseDups.map changed := by
  rw [alter_sections lines wanted change changed others atWanted,
    eraseDups_snoc, if_pos (mem_sectionNames_of_sectionAbove? isAbove)]

theorem read_sectionHeader
    {line : Text} (isHeader : IsSectionHeader line) (lines : List Text) :
    (draft lines).read (lines.length + 1 : Nat) line =
      draft (lines ++ [line]) := by
  have opened :
      ((draft lines).openSection line.firstWord).sections =
        (sectionNames lines ++ [line.firstWord]).eraseDups.map
          (sectionOf lines) :=
    alter_sections lines line.firstWord id (sectionOf lines)
      (fun _ _ => rfl) rfl
  have recorded :
      Named.alter line.firstWord (Section.empty line.firstWord)
          (·.recordHeaderLine (lines.length + 1 : Nat) line)
          ((sectionNames lines ++ [line.firstWord]).eraseDups.map
            (sectionOf lines)) =
        ((sectionNames lines ++ [line.firstWord]) ++
            [line.firstWord]).eraseDups.map
          (sectionOf (lines ++ [line])) :=
    alter_map_eraseDups line.firstWord (Section.empty line.firstWord)
      (·.recordHeaderLine (lines.length + 1 : Nat) line) _ (sectionOf lines)
      _ (fun _ => rfl)
      (fun other different => by
        rw [sectionOf_snoc_sectionHeader isHeader, if_neg different])
      (fun _ => by rw [sectionOf_snoc_sectionHeader isHeader, if_pos rfl])
      (fun unknown =>
        absurd (List.mem_append_right _ List.mem_cons_self) unknown)
  have known : line.firstWord ∈ sectionNames lines ++ [line.firstWord] := by
    simp
  have sectionsEq :
      sections (lines ++ [line]) =
        ((sectionNames lines ++ [line.firstWord]) ++
            [line.firstWord]).eraseDups.map
          (sectionOf (lines ++ [line])) := by
    rw [eraseDups_snoc (sectionNames lines ++ [line.firstWord]), if_pos known,
      sections, sectionNames_snoc, if_pos isHeader]
  have placeEq : place? (lines ++ [line]) = some ⟨line.firstWord, none⟩ := by
    rw [place?, sectionAbove?_snoc, if_pos isHeader, headingAbove?,
      openingAbove?_snoc_sectionHeader isHeader]
    rfl
  rw [Draft.read, (isSectionHeader_iff line).mp isHeader]
  dsimp only
  rw [Draft.alterSection, opened, recorded, ← sectionsEq]
  change _ = Draft.mk (sections (lines ++ [line])) (place? (lines ++ [line]))
  rw [placeEq]
  rfl

theorem draft_place_of_none
    {lines : List Text} (nothingAbove : sectionAbove? lines = none) :
    (draft lines).place = none := by
  rw [draft, place?, nothingAbove]
  rfl

theorem draft_place_of_some
    {lines : List Text} {sectionName : Text}
    (isAbove : sectionAbove? lines = some sectionName) :
    (draft lines).place = some ⟨sectionName, headingAbove? lines⟩ := by
  rw [draft, place?, isAbove]
  rfl

theorem sections_snoc_of_not
    {line : Text} (notHeader : ¬ IsSectionHeader line) (lines : List Text) :
    sections (lines ++ [line]) =
      (sectionNames lines).eraseDups.map (sectionOf (lines ++ [line])) := by
  rw [sections, sectionNames_snoc, if_neg notHeader, List.append_nil]

/-- The sections stay as they are if each of them does. -/
theorem sections_snoc_of_unchanged
    {line : Text} (notHeader : ¬ IsSectionHeader line) {lines : List Text}
    (unchanged :
      ∀ name : Text, sectionOf (lines ++ [line]) name = sectionOf lines name) :
    sections (lines ++ [line]) = sections lines := by
  rw [sections_snoc_of_not notHeader, funext unchanged, sections]

theorem place?_snoc_of_plain
    {line : Text} (notHeader : ¬ IsSectionHeader line)
    (notSubsection : ¬ IsSubsectionHeader line) (lines : List Text) :
    place? (lines ++ [line]) = place? lines := by
  rw [place?, sectionAbove?_snoc, if_neg notHeader, headingAbove?,
    openingAbove?_snoc_of_plain notHeader notSubsection]
  rfl

theorem read_entry
    {line : Text} (isEntry : IsEntry line) (lines : List Text) :
    (draft lines).read (lines.length + 1 : Nat) line =
      draft (lines ++ [line]) := by
  have notHeader : ¬ IsSectionHeader line :=
    fun isHeader => isHeader.not_isEntry isEntry
  have notSubsection : ¬ IsSubsectionHeader line :=
    fun isHeader => isHeader.not_isEntry isEntry
  have placeEq := place?_snoc_of_plain notHeader notSubsection lines
  rw [Draft.read, (isEntry_iff line).mp isEntry]
  change ((draft lines).attach? (itemOf lines line)).getD (draft lines) =
    Draft.mk (sections (lines ++ [line])) (place? (lines ++ [line]))
  cases isAbove : sectionAbove? lines with
  | none =>
      have unchanged (name : Text) :
          sectionOf (lines ++ [line]) name = sectionOf lines name :=
        sectionOf_snoc_entry_elsewhere isEntry (by simp [isAbove])
      rw [Draft.attach?, draft_place_of_none isAbove, placeEq,
        sections_snoc_of_unchanged notHeader unchanged]
      rfl
  | some sectionName =>
      have attached :=
        alter_sections_above isAbove
          (·.attach (headingAbove? lines) (itemOf lines line))
          (sectionOf (lines ++ [line]))
          (fun other different =>
            sectionOf_snoc_entry_elsewhere isEntry
              (by simpa [isAbove] using different.symm))
          (sectionOf_snoc_attached isEntry isAbove)
      rw [Draft.attach?, draft_place_of_some isAbove, placeEq,
        sections_snoc_of_not notHeader, ← attached]
      rfl

theorem place?_snoc_subsectionHeader
    {line : Text} (isHeader : IsSubsectionHeader line) (lines : List Text) :
    place? (lines ++ [line]) =
      (sectionAbove? lines).map fun name =>
        ⟨name, headingAbove? (lines ++ [line])⟩ := by
  have notHeader : ¬ IsSectionHeader line :=
    fun other => other.not_isSubsectionHeader isHeader
  rw [place?, sectionAbove?_snoc, if_neg notHeader]

/-- A header that repeats the one above leaves the place as it is. -/
theorem place?_snoc_repeated
    {line : Text} (isHeader : IsSubsectionHeader line) {lines : List Text}
    (repeats : RepeatsAbove lines (itemOf lines line)) :
    place? (lines ++ [line]) = place? lines := by
  rw [place?_snoc_subsectionHeader isHeader, headingAbove?,
    openingAbove?_snoc_subsectionHeader isHeader, if_pos repeats, place?,
    headingAbove?]

section SubsectionHeader

variable {line : Text} (isHeader : IsSubsectionHeader line) {lines : List Text}
  {sectionName : Text} (isAbove : sectionAbove? lines = some sectionName)

include isHeader isAbove

theorem alter_sections_subsectionHeader
    (change : Section → Section)
    (atWanted :
      sectionOf (lines ++ [line]) sectionName =
        change (sectionOf lines sectionName)) :
    Named.alter sectionName (Section.empty sectionName) change
        (sections lines) =
      sections (lines ++ [line]) := by
  have notHeader : ¬ IsSectionHeader line :=
    fun other => other.not_isSubsectionHeader isHeader
  have elsewhere (other : Text) (different : other ≠ sectionName) :
      sectionOf (lines ++ [line]) other = sectionOf lines other :=
    sectionOf_snoc_elsewhere isHeader (by simpa [isAbove] using different.symm)
  rw [sections_snoc_of_not notHeader]
  exact alter_sections_above isAbove change
    (sectionOf (lines ++ [line])) elsewhere atWanted

/-- A header that does not repeat the one above enters its subsection. -/
theorem enter_draft (differs : ¬ RepeatsAbove lines (itemOf lines line)) :
    Draft.openSubsection?.enter (draft lines) sectionName
        ⟨line.firstWord, itemOf lines line⟩ =
      draft (lines ++ [line]) := by
  have entered :=
    alter_sections_subsectionHeader isHeader isAbove
      (·.enter ⟨line.firstWord, itemOf lines line⟩)
      (sectionOf_snoc_entered isHeader isAbove differs)
  have opened :
      headingAbove? (lines ++ [line]) =
        some ⟨line.firstWord, itemOf lines line⟩ := by
    rw [headingAbove?, openingAbove?_snoc_subsectionHeader isHeader,
      if_neg differs, Option.map_some, itemOf_firstWord]
  rw [draft, draft, place?_snoc_subsectionHeader isHeader, isAbove, opened,
    ← entered]
  rfl

/-- A header that repeats the one above is recorded. -/
theorem recordRepeat_draft
    {opening : Item} (isOpening : openingAbove? lines = some opening)
    (repeats : RepeatsAbove lines (itemOf lines line)) :
    (draft lines).alterSection sectionName
        (·.recordRepeat (itemOf lines line) opening.position.row) =
      draft (lines ++ [line]) := by
  have recorded :=
    alter_sections_subsectionHeader isHeader isAbove
      (·.recordRepeat (itemOf lines line) opening.position.row)
      (sectionOf_snoc_repeated isHeader isAbove isOpening
        ((repeatsAbove_iff isOpening _).mp repeats))
  rw [draft, draft, place?_snoc_repeated isHeader repeats, ← recorded]
  rfl

end SubsectionHeader

theorem isRepeatedBy_iff
    {lines : List Text} {opening : Item}
    (isOpening : openingAbove? lines = some opening) (line : Text) :
    Heading.isRepeatedBy ⟨opening.text.firstWord, opening⟩ line.firstWord
        (itemOf lines line) = true ↔
      RepeatsAbove lines (itemOf lines line) := by
  rw [repeatsAbove_iff isOpening, SameHeader, itemOf_firstWord]
  simp [Heading.isRepeatedBy]

theorem read_subsectionHeader
    {line : Text} (isHeader : IsSubsectionHeader line) (lines : List Text) :
    (draft lines).read (lines.length + 1 : Nat) line =
      draft (lines ++ [line]) := by
  have notHeader : ¬ IsSectionHeader line :=
    fun other => other.not_isSubsectionHeader isHeader
  rw [Draft.read, (isSubsectionHeader_iff line).mp isHeader]
  change ((draft lines).openSubsection? line.firstWord (itemOf lines line)).getD
      (draft lines) =
    draft (lines ++ [line])
  cases isAbove : sectionAbove? lines with
  | none =>
      have unchanged (name : Text) :
          sectionOf (lines ++ [line]) name = sectionOf lines name :=
        sectionOf_snoc_elsewhere isHeader (by simp [isAbove])
      rw [Draft.openSubsection?, draft_place_of_none isAbove, draft, draft,
        place?_snoc_subsectionHeader isHeader, place?, isAbove,
        sections_snoc_of_unchanged notHeader unchanged]
      rfl
  | some sectionName =>
      rw [Draft.openSubsection?, draft_place_of_some isAbove]
      cases isOpening : openingAbove? lines with
      | none =>
          have closed : headingAbove? lines = none := by
            rw [headingAbove?, isOpening]; rfl
          have differs : ¬ RepeatsAbove lines (itemOf lines line) := by
            rintro ⟨nearest, isNearest, _⟩
            rw [(openingAbove?_eq_none_iff lines).mp isOpening] at isNearest
            cases isNearest
          rw [closed, ← enter_draft isHeader isAbove differs]
          rfl
      | some opening =>
          have isOpen :
              headingAbove? lines = some ⟨opening.text.firstWord, opening⟩ := by
            rw [headingAbove?, isOpening]
            rfl
          rw [isOpen]
          by_cases repeats : RepeatsAbove lines (itemOf lines line)
          · rw [← recordRepeat_draft isHeader isAbove isOpening repeats]
            simp only [(isRepeatedBy_iff isOpening line).mpr repeats, if_true,
              Option.getD_some]
          · rw [← enter_draft isHeader isAbove repeats]
            simp only [mt (isRepeatedBy_iff isOpening line).mp repeats]
            rfl

theorem read_ignored
    {line : Text} (isIgnored : ofText line = ignored) (lines : List Text) :
    (draft lines).read (lines.length + 1 : Nat) line =
      draft (lines ++ [line]) := by
  have notHeader : ¬ IsSectionHeader line := by
    simp [isSectionHeader_iff, isIgnored]
  have notSubsection : ¬ IsSubsectionHeader line := by
    simp [isSubsectionHeader_iff, isIgnored]
  have notEntry : ¬ IsEntry line := by simp [isEntry_iff, isIgnored]
  have unchanged (name : Text) :
      sectionOf (lines ++ [line]) name = sectionOf lines name := by
    simp only [sectionOf, subsectionNames,
      subsectionHeaders_snoc_of_not notSubsection, entries_snoc_of_not notEntry,
      repeatedHeaders_snoc_of_not notSubsection,
      headerLines_snoc_of_not notHeader,
      subsectionOf_snoc_of_not notSubsection notEntry]
  rw [Draft.read, isIgnored, draft, draft,
    sections_snoc_of_unchanged notHeader unchanged,
    place?_snoc_of_plain notHeader notSubsection]

/-- One more line changes the draft as it changes the layout. -/
theorem read_draft (lines : List Text) (line : Text) :
    (draft lines).read (lines.length + 1 : Nat) line =
      draft (lines ++ [line]) := by
  rcases ofText_cases line with isHeader | isHeader | isEntry | isIgnored
  · exact read_sectionHeader ((isSectionHeader_iff line).mpr isHeader) lines
  · exact read_subsectionHeader
      ((isSubsectionHeader_iff line).mpr isHeader) lines
  · exact read_entry ((isEntry_iff line).mpr isEntry) lines
  · exact read_ignored isIgnored lines

/-- The draft after reading is the layout of the lines. -/
theorem readAll_eq_draft (lines : List Text) :
    Draft.empty.readAll (lines.zipIdx 1) = draft lines := by
  induction lines using List.reverseRecOn with
  | nil => rfl
  | append_singleton lines line ih =>
      rw [Draft.readAll] at ih ⊢
      rw [List.zipIdx_append, List.foldl_append, ih, ← read_draft,
        Nat.add_comm lines.length 1]
      rfl

/-- The sections of a text are the layout of its lines. -/
theorem parse_sections (file text : Text) :
    (Outline.parse file text).sections = sections text.lines := by
  rw [Outline.parse, Text.numberedLines, readAll_eq_draft]
  rfl

end OutlineLint.Layout
