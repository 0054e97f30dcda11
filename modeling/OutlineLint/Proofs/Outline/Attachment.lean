import OutlineLint.Proofs.Outline.Items

/-!
# Where lines are attached

The nearest headers above a line are told by the lines alone: a section header
with no other after it and, between the two, perhaps a subsection header with no
other after it.  The outline of a text attaches each entry to the scope that its
nearest headers name.  It has nothing from anywhere else, and no line twice.
-/

namespace OutlineLint

open OutlineLine Layout

/-! ## The nearest headers -/

/-- The scope is named by the nearest headers above. -/
inductive Layout.Scope.Nearest : Scope → List Text → Prop where
  /-- No subsection header follows the nearest section header. -/
  | outside (before : List Text) {header : Text} (between : List Text)
      (isHeader : IsSectionHeader header)
      (plain :
        ∀ line ∈ between, ¬ IsSectionHeader line ∧ ¬ IsSubsectionHeader line) :
      Nearest ⟨header.firstWord, none⟩ (before ++ header :: between)
  /-- The nearest subsection header stands below the nearest section header. -/
  | inside (before : List Text) {header : Text} (first : List Text)
      {subheader : Text} (second : List Text)
      (isHeader : IsSectionHeader header)
      (noSection : ∀ line ∈ first, ¬ IsSectionHeader line)
      (isSubsection : IsSubsectionHeader subheader)
      (plain :
        ∀ line ∈ second, ¬ IsSectionHeader line ∧ ¬ IsSubsectionHeader line) :
      Nearest ⟨header.firstWord, some subheader.firstWord⟩
        (before ++ header :: first ++ subheader :: second)

namespace Layout

theorem sectionAbove?_eq_some_iff (above : List Text) (name : Text) :
    sectionAbove? above = some name ↔
      ∃ (before : List Text) (header : Text) (between : List Text),
        above = before ++ header :: between ∧ IsSectionHeader header ∧
          header.firstWord = name ∧
          ∀ line ∈ between, ¬ IsSectionHeader line := by
  rw [sectionAbove?, Option.map_eq_some_iff]
  constructor
  · rintro ⟨header, found, named⟩
    obtain ⟨isHeader, later, earlier, whole, others⟩ :=
      List.find?_eq_some_iff_append.mp found
    refine ⟨earlier.reverse, header, later.reverse, ?_, by simpa using isHeader,
      named, ?_⟩
    · rw [← List.reverse_reverse above, whole]
      simp
    · intro line member
      simpa using others line (List.mem_reverse.mp member)
  · rintro ⟨before, header, between, rfl, isHeader, named, others⟩
    refine ⟨header, List.find?_eq_some_iff_append.mpr ?_, named⟩
    refine
      ⟨by simpa using isHeader, between.reverse, before.reverse, by simp, ?_⟩
    intro line member
    simpa using others line (List.mem_reverse.mp member)

theorem scopeBelow?_snoc (above : List Text) (line : Text) :
    scopeBelow? (above ++ [line]) =
      if IsSectionHeader line then some ⟨line.firstWord, none⟩
      else if IsSubsectionHeader line then
        (sectionAbove? above).map fun sectionName =>
          ⟨sectionName, some line.firstWord⟩
      else scopeBelow? above := by
  rw [scopeBelow?, sectionAbove?_snoc, headersAbove_snoc]
  by_cases isHeader : IsSectionHeader line
  · simp [isHeader]
  · by_cases isSubsection : IsSubsectionHeader line
    · simp [isHeader, isSubsection, itemOf_firstWord]
    · simp [isHeader, isSubsection, scopeBelow?]

theorem sectionAbove?_append_of_not
    (above : List Text) {between : List Text}
    (noSection : ∀ line ∈ between, ¬ IsSectionHeader line) :
    sectionAbove? (above ++ between) = sectionAbove? above := by
  have noneBetween : between.reverse.find? (IsSectionHeader ·) = none := by
    rw [List.find?_eq_none]
    intro line member
    simpa using noSection line (List.mem_reverse.mp member)
  rw [sectionAbove?, List.reverse_append, List.find?_append, noneBetween,
    Option.none_or, sectionAbove?]

theorem headersAbove_append_of_plain
    (above : List Text) {between : List Text}
    (plain :
      ∀ line ∈ between, ¬ IsSectionHeader line ∧ ¬ IsSubsectionHeader line) :
    headersAbove (above ++ between) = headersAbove above := by
  induction between using List.reverseRecOn with
  | nil => rw [List.append_nil]
  | append_singleton between line ih =>
      have lastPlain := plain line (by simp)
      rw [← List.append_assoc, headersAbove_snoc, if_neg lastPlain.1,
        if_neg lastPlain.2]
      exact ih fun other member => plain other (List.mem_append_left _ member)

theorem scopeBelow?_append_of_plain
    (above : List Text) {between : List Text}
    (plain :
      ∀ line ∈ between, ¬ IsSectionHeader line ∧ ¬ IsSubsectionHeader line) :
    scopeBelow? (above ++ between) = scopeBelow? above := by
  rw [scopeBelow?,
    sectionAbove?_append_of_not above fun line member => (plain line member).1,
    headersAbove_append_of_plain above plain, scopeBelow?]

theorem Scope.Nearest.snoc
    {scope : Scope} {above : List Text} (nearest : scope.Nearest above)
    {line : Text} (notHeader : ¬ IsSectionHeader line)
    (notSubsection : ¬ IsSubsectionHeader line) :
    scope.Nearest (above ++ [line]) := by
  have extended {between : List Text}
      (plain :
        ∀ other ∈ between, ¬ IsSectionHeader other ∧
          ¬ IsSubsectionHeader other) :
      ∀ other ∈ between ++ [line], ¬ IsSectionHeader other ∧
        ¬ IsSubsectionHeader other := by
    intro other member
    rcases List.mem_append.mp member with earlier | last
    · exact plain other earlier
    · rw [List.mem_singleton.mp last]
      exact ⟨notHeader, notSubsection⟩
  cases nearest with
  | outside before between isHeader plain =>
      rw [List.append_assoc, List.cons_append]
      exact .outside before (between ++ [line]) isHeader (extended plain)
  | inside before first second isHeader noSection isSubsection plain =>
      rw [List.append_assoc, List.cons_append]
      exact .inside before first
        (second ++ [line]) isHeader noSection isSubsection
        (extended plain)

/-- A line belongs to the scope that the nearest headers above it name. -/
theorem scopeBelow?_eq_some_iff (above : List Text) (scope : Scope) :
    scopeBelow? above = some scope ↔ scope.Nearest above := by
  constructor
  · intro isBelow
    induction above using List.reverseRecOn with
    | nil => cases isBelow
    | append_singleton above line ih =>
        rw [scopeBelow?_snoc] at isBelow
        split at isBelow
        · next isHeader =>
            cases isBelow
            exact .outside above [] isHeader (by simp)
        · next notHeader =>
            split at isBelow
            · next isSubsection =>
                obtain ⟨sectionName, isAbove, rfl⟩ :=
                  Option.map_eq_some_iff.mp isBelow
                obtain ⟨before, header, first, rfl, isHeader, rfl, noSection⟩ :=
                  (sectionAbove?_eq_some_iff above sectionName).mp isAbove
                exact .inside before first [] isHeader noSection isSubsection
                  (by simp)
            · next notSubsection =>
                exact (ih isBelow).snoc notHeader notSubsection
  · intro nearest
    cases nearest with
    | @outside before header between isHeader plain =>
        have whole :
            before ++ header :: between = before ++ [header] ++ between := by
          simp
        rw [whole, scopeBelow?_append_of_plain _ plain, scopeBelow?_snoc,
          if_pos isHeader]
    | @inside before header first subheader second isHeader noSection
        isSubsection plain =>
        have notHeader : ¬ IsSectionHeader subheader :=
          fun other => other.not_isSubsectionHeader isSubsection
        have isAbove :
            sectionAbove? (before ++ header :: first) = some header.firstWord :=
          (sectionAbove?_eq_some_iff _ _).mpr
            ⟨before, header, first, rfl, isHeader, rfl, noSection⟩
        have whole :
            before ++ header :: first ++ subheader :: second =
              before ++ header :: first ++ [subheader] ++ second := by
          simp
        rw [whole, scopeBelow?_append_of_plain _ plain, scopeBelow?_snoc,
          if_neg notHeader, if_pos isSubsection, isAbove]
        rfl

theorem nodup_rows_allEntries (lines : List Text) :
    ((allEntries lines).map (·.position.row)).Nodup := by
  rw [List.Nodup, List.pairwise_map]
  exact (pairwise_rows_collect lines).imp fun before => Int.ne_of_lt before

end Layout

/-! ## The outline of the lines -/

/-- The item is in the subsection of the section, or outside its subsections. -/
def Section.Holds
    (opened : Section) (subsectionName : Option Text) (item : Item) : Prop :=
  match subsectionName with
  | none => item ∈ opened.items
  | some name =>
      ∃ part ∈ opened.subsections, part.name = name ∧ item ∈ part.items

/--
The outline attaches the lines to their nearest headers, and has nothing else.
-/
structure Outline.Attaches
    (file : Text) (lines : List Text) (outline : Outline) :
    Prop where
  /-- The sections have the first words of the section headers, each once. -/
  sectionNames :
    outline.sections.map Section.name =
      ((lines.filter (IsSectionHeader ·)).map Text.firstWord).eraseDups
  headerLines :
    ∀ opened ∈ outline.sections,
      opened.headerLines = Layout.headerLines opened.name lines
  ownItems :
    ∀ opened ∈ outline.sections,
      opened.items = entries ⟨opened.name, none⟩ lines
  /--
  The subsections have the first words of the headers in the section, each once.
  -/
  subsectionNames :
    ∀ opened ∈ outline.sections,
      opened.subsections.map Subsection.name =
        ((subsectionHeaders opened.name lines).map (·.text.firstWord)).eraseDups
  subsectionPositions :
    ∀ opened ∈ outline.sections, ∀ part ∈ opened.subsections,
      ((subsectionHeaders opened.name lines).find?
          (·.text.firstWord = part.name)).map
          Item.position =
        some part.position
  subsectionItems :
    ∀ opened ∈ outline.sections, ∀ part ∈ opened.subsections,
      part.items = entries ⟨opened.name, some part.name⟩ lines
  repeatedHeaders :
    ∀ opened ∈ outline.sections,
      opened.repeatedHeaders = Layout.repeatedHeaders opened.name lines
  /--
  Every entry below a section header is in the scope of its nearest headers.
  -/
  nearest :
    ∀ (above : List Text) (line : Text) (below : List Text) (scope : Scope),
      lines = above ++ line :: below → IsEntry line → scope.Nearest above →
        ∃ opened ∈ outline.sections,
          opened.name = scope.sectionName ∧
            opened.Holds scope.subsectionName (itemOf above line)
  /--
  Over all scopes there is one item for each such entry, and no other item.
  -/
  allItems : (outline.sections.flatMap Section.allItems).Perm (allEntries lines)
  /-- No two items come from one line, whatever their scopes. -/
  rows :
    ((outline.sections.flatMap Section.allItems).map (·.position.row)).Nodup
  references :
    outline.references =
      (lines.zipIdx 1).flatMap fun (line, row) => Reference.onLine file row line

namespace Layout

theorem mem_sections_iff (lines : List Text) (opened : Section) :
    opened ∈ sections lines ↔
      ∃ name ∈ sectionNames lines, sectionOf lines name = opened := by
  simp [sections]

theorem mem_subsections_iff
    (lines : List Text) (name : Text) (part : Subsection) :
    part ∈ (sectionOf lines name).subsections ↔
      ∃ other ∈ subsectionNames name lines,
        subsectionOf name lines other = part := by
  simp [sectionOf]

theorem position_of_mem_subsectionNames
    {lines : List Text} {sectionName name : Text}
    (member : name ∈ subsectionNames sectionName lines) :
    ((subsectionHeaders sectionName lines).find? (·.text.firstWord = name)).map
        Item.position =
      some (subsectionPosition sectionName name lines) := by
  obtain ⟨first, isFirst⟩ :=
    Option.isSome_iff_exists.mp (isSome_find?_subsectionHeaders member)
  rw [subsectionPosition, isFirst]
  rfl

/-- An entry is held by the section of its scope. -/
theorem holds_of_nearest
    {above : List Text} {line : Text} {below : List Text} {scope : Scope}
    (isEntry : IsEntry line) (nearest : scope.Nearest above) :
    ∃ opened ∈ sections (above ++ line :: below),
      opened.name = scope.sectionName ∧
        opened.Holds scope.subsectionName (itemOf above line) := by
  have isBelow := (scopeBelow?_eq_some_iff above scope).mpr nearest
  obtain ⟨sectionName, isAbove, rfl⟩ := Option.map_eq_some_iff.mp isBelow
  have known := mem_sectionNames_append isAbove (line :: below)
  have attached (subsectionName : Option Text)
      (here : scopeBelow? above = some ⟨sectionName, subsectionName⟩) :
      itemOf above line ∈
        entries ⟨sectionName, subsectionName⟩ (above ++ line :: below) :=
    (mem_collect_iff _ _ _).mpr
      ⟨above, line, below, rfl, if_pos ⟨isEntry, here⟩⟩
  refine ⟨_, (mem_sections_iff _ _).mpr ⟨sectionName, known, rfl⟩, rfl, ?_⟩
  dsimp only
  cases subsection : (headersAbove above).head?.map (·.text.firstWord) with
  | none => exact attached none (by rw [isBelow, subsection])
  | some name =>
      have member := attached (some name) (by rw [isBelow, subsection])
      have entered :
          name ∈ subsectionNames sectionName (above ++ line :: below) := by
        by_contra absent
        rw [entries_eq_nil absent] at member
        cases member
      exact
        ⟨_, (mem_subsections_iff _ _ _).mpr ⟨name, entered, rfl⟩, rfl, member⟩

end Layout

/-- The outline of a text attaches the lines of the text. -/
theorem Outline.parse_attaches (file text : Text) :
    (Outline.parse file text).Attaches file text.lines := by
  have layout := parse_sections file text
  have conserved :
      ((Outline.parse file text).sections.flatMap Section.allItems).Perm
        (allEntries text.lines) := by
    rw [layout]
    exact allItems_draft text.lines
  have sectionCases {opened : Section}
      (member : opened ∈ (Outline.parse file text).sections) :
      ∃ name ∈ Layout.sectionNames text.lines,
        sectionOf text.lines name = opened := by
    rw [layout] at member
    exact (mem_sections_iff _ _).mp member
  constructor
  case sectionNames =>
    rw [layout, Layout.sections, List.map_map]
    exact List.map_id _
  case headerLines =>
    intro opened member
    obtain ⟨name, _, rfl⟩ := sectionCases member
    rfl
  case ownItems =>
    intro opened member
    obtain ⟨name, _, rfl⟩ := sectionCases member
    rfl
  case subsectionNames =>
    intro opened member
    obtain ⟨name, _, rfl⟩ := sectionCases member
    rw [sectionOf, List.map_map]
    exact List.map_id _
  case subsectionPositions =>
    intro opened member part isPart
    obtain ⟨name, _, rfl⟩ := sectionCases member
    obtain ⟨other, known, rfl⟩ := (mem_subsections_iff _ _ _).mp isPart
    exact position_of_mem_subsectionNames known
  case subsectionItems =>
    intro opened member part isPart
    obtain ⟨name, _, rfl⟩ := sectionCases member
    obtain ⟨other, _, rfl⟩ := (mem_subsections_iff _ _ _).mp isPart
    rfl
  case repeatedHeaders =>
    intro opened member
    obtain ⟨name, _, rfl⟩ := sectionCases member
    rfl
  case nearest =>
    intro above line below scope whole isEntry nearest
    rw [layout, whole]
    exact holds_of_nearest isEntry nearest
  case allItems => exact conserved
  case rows =>
    rw [(conserved.map _).nodup_iff]
    exact nodup_rows_allEntries text.lines
  case references => rfl

end OutlineLint
