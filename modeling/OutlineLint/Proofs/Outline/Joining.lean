import OutlineLint.Proofs.Outline.Merge
import OutlineLint.Proofs.Outline.Reading

/-!
# Texts joined at a section header

Reading a text and, below it, a second text that begins with a section header
gives the outline of the first merged with that of the second.  The header cuts
off all that stands above it: below it the nearest headers, and so the runs of
equal headers, are those of the second text alone.  No repeated header is made
or lost where the texts meet.
-/

namespace OutlineLint

open OutlineLine

namespace Layout

/-- The first of the lines opens a section. -/
def BeginsSection (lines : List Text) : Prop :=
  ∃ (header : Text) (rest : List Text),
    lines = header :: rest ∧ IsSectionHeader header

/-! ## Above a line of the second text -/

section Above

variable (above : List Text)

theorem itemOf_append (before : List Text) (line : Text) :
    itemOf (above ++ before) line =
      (itemOf before line).below above.length := by
  simp only [itemOf, Item.below, Position.below, List.length_append,
    Item.mk.injEq, Position.mk.injEq, true_and, and_true]
  push_cast
  omega

theorem sameHeader_below_iff (first second : Item) (lines : Nat) :
    SameHeader (first.below lines) (second.below lines) ↔
      SameHeader first second :=
  Iff.rfl

theorem run_map_below (headers : List Item) (lines : Nat) :
    run (headers.map (·.below lines)) = (run headers).map (·.below lines) := by
  cases headers with
  | nil => rfl
  | cons nearest rest =>
      rw [List.map_cons, run, run, List.map_cons, List.takeWhile_map]
      rfl

variable {before : List Text}

theorem sectionAbove?_append (begins : BeginsSection before) :
    sectionAbove? (above ++ before) = sectionAbove? before := by
  obtain ⟨header, rest, rfl, isHeader⟩ := begins
  induction rest using List.reverseRecOn with
  | nil =>
      have alone := sectionAbove?_snoc [] header
      rw [if_pos isHeader, List.nil_append] at alone
      rw [sectionAbove?_snoc, if_pos isHeader, alone]
  | append_singleton rest line ih =>
      rw [← List.cons_append, ← List.append_assoc, sectionAbove?_snoc,
        sectionAbove?_snoc, ih]

theorem headersAbove_append (begins : BeginsSection before) :
    headersAbove (above ++ before) =
      (headersAbove before).map (·.below above.length) := by
  obtain ⟨header, rest, rfl, isHeader⟩ := begins
  induction rest using List.reverseRecOn with
  | nil =>
      have alone := headersAbove_snoc [] header
      rw [if_pos isHeader, List.nil_append] at alone
      rw [headersAbove_snoc, if_pos isHeader, alone, List.map_nil]
  | append_singleton rest line ih =>
      rw [← List.cons_append, ← List.append_assoc, headersAbove_snoc,
        headersAbove_snoc, ih, itemOf_append]
      split
      · rfl
      · split <;> rfl

theorem scopeBelow?_append (begins : BeginsSection before) :
    scopeBelow? (above ++ before) = scopeBelow? before := by
  rw [scopeBelow?, sectionAbove?_append above begins,
    headersAbove_append above begins, List.head?_map, Option.map_map]
  rfl

theorem openingAbove?_append (begins : BeginsSection before) :
    openingAbove? (above ++ before) =
      (openingAbove? before).map (·.below above.length) := by
  rw [openingAbove?, headersAbove_append above begins, run_map_below,
    List.getLast?_map, openingAbove?]

theorem repeatsAbove_append_iff
    (begins : BeginsSection before) (header : Item) :
    RepeatsAbove (above ++ before) (header.below above.length) ↔
      RepeatsAbove before header := by
  rw [RepeatsAbove, headersAbove_append above begins, List.head?_map,
    RepeatsAbove]
  cases (headersAbove before).head? with
  | none => simp
  | some nearest => simp [sameHeader_below_iff]

end Above

/-! ## What the second text contributes -/

section Contributions

variable {above lines : List Text} (begins : BeginsSection lines)

include begins

/--
What is picked from both texts is picked from each, if below a section header
the lines of the first text make no difference but for the rows.
-/
theorem collect_append
    {α : Type} {pick : List Text → Text → Option α} {change : α → α}
    (atHeader : ∀ header : Text, IsSectionHeader header →
      pick above header = (pick [] header).map change)
    (further : ∀ (before : List Text) (line : Text), BeginsSection before →
      pick (above ++ before) line = (pick before line).map change) :
    collect pick (above ++ lines) =
      collect pick above ++ (collect pick lines).map change := by
  rw [collect, collectBelow_append, collect, collect]
  congr 1
  apply collectBelow_eq_map
  intro before line after whole
  obtain ⟨header, rest, rfl, isHeader⟩ := begins
  cases before with
  | nil =>
      obtain ⟨rfl, rfl⟩ := List.cons.inj whole
      rw [List.nil_append, List.append_nil]
      exact atHeader header isHeader
  | cons first earlier =>
      obtain ⟨rfl, _⟩ := List.cons.inj whole
      exact further (header :: earlier) line ⟨header, earlier, rfl, isHeader⟩

theorem headerLines_append (name : Text) :
    headerLines name (above ++ lines) =
      headerLines name above ++
        (headerLines name lines).map (·.below above.length) := by
  have shifted (before : List Text) (line : Text) :
      (HeaderLine.mk ((above ++ before).length + 1 : Nat) line) =
        (HeaderLine.mk (before.length + 1 : Nat) line).below above.length := by
    simp only [HeaderLine.below, List.length_append, HeaderLine.mk.injEq,
      and_true]
    push_cast
    omega
  apply collect_append begins
  · intro header _
    have here := shifted [] header
    rw [List.append_nil] at here
    simp only [here]
    split <;> rfl
  · intro before line _
    simp only [shifted]
    split <;> rfl

theorem subsectionHeaders_append (name : Text) :
    subsectionHeaders name (above ++ lines) =
      subsectionHeaders name above ++
        (subsectionHeaders name lines).map (·.below above.length) := by
  apply collect_append begins
  · intro header isHeader
    rw [if_neg (fun both => isHeader.not_isSubsectionHeader both.1),
      if_neg (fun both => isHeader.not_isSubsectionHeader both.1)]
    rfl
  · intro before line beginsBefore
    rw [sectionAbove?_append above beginsBefore, itemOf_append]
    split <;> rfl

theorem entries_append (scope : Scope) :
    entries scope (above ++ lines) =
      entries scope above ++
        (entries scope lines).map (·.below above.length) := by
  apply collect_append begins
  · intro header isHeader
    rw [if_neg (fun both => isHeader.not_isEntry both.1),
      if_neg (fun both => isHeader.not_isEntry both.1)]
    rfl
  · intro before line beginsBefore
    rw [scopeBelow?_append above beginsBefore, itemOf_append]
    split <;> rfl

theorem repeatedHeaders_append (name : Text) :
    repeatedHeaders name (above ++ lines) =
      repeatedHeaders name above ++
        (repeatedHeaders name lines).map (·.below above.length) := by
  apply collect_append begins
  · intro header isHeader
    rw [if_neg (fun all => isHeader.not_isSubsectionHeader all.1),
      if_neg (fun all => isHeader.not_isSubsectionHeader all.1)]
    rfl
  · intro before line beginsBefore
    rw [sectionAbove?_append above beginsBefore,
      openingAbove?_append above beginsBefore, itemOf_append]
    simp only [repeatsAbove_append_iff above beginsBefore]
    split
    · rw [Option.map_map, Option.map_map]
      rfl
    · rfl

/-! ## Sections of both texts -/

theorem subsectionNames_append (name : Text) :
    subsectionNames name (above ++ lines) =
      subsectionNames name above ++ subsectionNames name lines := by
  rw [subsectionNames, subsectionHeaders_append begins, List.map_append,
    List.map_map]
  rfl

theorem subsectionPosition_append_of_known
    {name other : Text} (known : other ∈ subsectionNames name above) :
    subsectionPosition name other (above ++ lines) =
      subsectionPosition name other above := by
  rw [subsectionPosition, subsectionHeaders_append begins, List.find?_append,
    Option.or_of_isSome (isSome_find?_subsectionHeaders known),
    subsectionPosition]

theorem subsectionPosition_append_of_new
    {name other : Text} (new : other ∉ subsectionNames name above)
    (entered : other ∈ subsectionNames name lines) :
    subsectionPosition name other (above ++ lines) =
      (subsectionPosition name other lines).below above.length := by
  have notFound :
      (subsectionHeaders name above).find?
        (·.text.firstWord = other) = none := by
    rw [List.find?_eq_none]
    intro header member same
    exact new (List.mem_map.mpr ⟨header, member, by simpa using same⟩)
  have sameSearch :
      ((subsectionHeaders name lines).map (·.below above.length)).find?
          (·.text.firstWord = other) =
        ((subsectionHeaders name lines).find? (·.text.firstWord = other)).map
          (·.below above.length) := by
    rw [List.find?_map]
    rfl
  obtain ⟨header, isFirst⟩ :=
    Option.isSome_iff_exists.mp (isSome_find?_subsectionHeaders entered)
  rw [subsectionPosition, subsectionHeaders_append begins, List.find?_append,
    notFound, Option.none_or, sameSearch, subsectionPosition, isFirst]
  rfl

/-- The section of a name in both texts is merged from its sections in each. -/
theorem sectionOf_append (name : Text) :
    sectionOf (above ++ lines) name =
      (sectionOf above name).merge
        ((sectionOf lines name).below above.length) := by
  have itemsOf (other : Text) :
      (subsectionOf name (above ++ lines) other).items =
        (subsectionOf name above other).items ++
          ((subsectionOf name lines other).below above.length).items :=
    entries_append begins ⟨name, some other⟩
  have subsectionsEq :
      Named.merge Subsection.merge
          ((subsectionNames name above).eraseDups.map (subsectionOf name above))
          ((subsectionNames name lines).eraseDups.map fun other =>
            (subsectionOf name lines other).below above.length) =
        (subsectionNames name above ++ subsectionNames name lines).eraseDups.map
          (subsectionOf name (above ++ lines)) := by
    apply Named.merge_map_eraseDups
    case firstNamed | secondNamed => exact fun other => rfl
    case inBoth =>
      intro other known _
      rw [Subsection.merge, ← itemsOf]
      simp only [subsectionOf, subsectionPosition_append_of_known begins known]
    case inFirst =>
      intro other known absent
      have nothing := entries_eq_nil absent
      simp only [subsectionOf, subsectionPosition_append_of_known begins known,
        entries_append begins, nothing, List.map_nil, List.append_nil]
    case inSecond =>
      intro other entered new
      have nothing := entries_eq_nil new
      simp only [subsectionOf, Subsection.below,
        subsectionPosition_append_of_new begins new entered,
        entries_append begins, nothing, List.nil_append]
  simp only [sectionOf, Section.below, Section.merge, List.map_map,
    subsectionNames_append begins, entries_append begins,
    repeatedHeaders_append begins, headerLines_append begins]
  rw [← subsectionsEq]
  rfl

end Contributions

theorem sections_append
    (above : List Text) {lines : List Text} (begins : BeginsSection lines) :
    sections (above ++ lines) =
      Named.merge Section.merge (sections above)
        ((sections lines).map (·.below above.length)) := by
  have merged :
      Named.merge Section.merge
        ((sectionNames above).eraseDups.map (sectionOf above))
          ((sectionNames lines).eraseDups.map fun name =>
            (sectionOf lines name).below above.length) =
        (sectionNames above ++ sectionNames lines).eraseDups.map
          (sectionOf (above ++ lines)) := by
    apply Named.merge_map_eraseDups
    case firstNamed | secondNamed => exact fun other => rfl
    case inBoth =>
      intro name _ _
      exact (sectionOf_append begins name).symm
    case inFirst =>
      intro name _ absent
      rw [sectionOf_append begins, sectionOf_eq_empty absent]
      simp [Section.merge, Section.below, Section.empty]
    case inSecond =>
      intro name _ new
      rw [sectionOf_append begins, sectionOf_eq_empty new]
      simp [Section.merge, Section.below, Section.empty, sectionOf]
  rw [sections, sectionNames_append, ← merged, sections, sections, List.map_map]
  rfl

end Layout

/-! ## Joined texts -/

namespace Text

theorem lines_append (first second : Text) :
    lines (first ++ '\n' :: second) = first.lines ++ second.lines := by
  rw [lines, List.splitOn_append_cons_self, List.map_append, lines, lines]

theorem exists_dropReturn_cons
    {first : Char} (notReturn : first ≠ '\r') (line : Text) :
    ∃ rest : Text, dropReturn (first :: line) = first :: rest := by
  unfold dropReturn
  split
  · next endsInReturn =>
      cases line with
      | nil => exact absurd (by simpa using endsInReturn) notReturn
      | cons second rest => exact ⟨(second :: rest).dropLast, rfl⟩
  · exact ⟨line, rfl⟩

/-- A text that begins with a visible character opens a section at once. -/
theorem beginsSection_lines
    {first : Char} (visible : isBlank first = false) (rest : Text) :
    Layout.BeginsSection (lines (first :: rest)) := by
  have notFeed : first ≠ '\n' := by
    rintro rfl
    revert visible
    decide
  have notReturn : first ≠ '\r' := by
    rintro rfl
    revert visible
    decide
  obtain ⟨line, others, split⟩ :=
    List.exists_cons_of_ne_nil (List.splitOn_ne_nil '\n' rest)
  have whole :
      lines (first :: rest) =
          dropReturn (first :: line) :: others.map dropReturn := by
    rw [lines, List.splitOn_cons_eq_if_modifyHead, split]
    simp [notFeed]
  obtain ⟨content, kept⟩ := exists_dropReturn_cons notReturn line
  refine
    ⟨first :: content, others.map dropReturn, ?_, first, content, rfl, visible⟩
  rw [whole, kept]

theorem numberedLines_append (first second : Text) :
    numberedLines (first ++ '\n' :: second) =
      first.numberedLines ++
        second.numberedLines.map (Prod.map id (· + first.lines.length)) := by
  rw [numberedLines, lines_append, List.zipIdx_append, numberedLines,
    numberedLines, List.map_snd_add_zipIdx_eq_zipIdx, Nat.add_comm]

end Text

namespace Reference

theorem onLine_add (file : Text) (row : Int) (lines : Nat) (line : Text) :
    onLine file (row + lines) line =
      (onLine file row line).map (·.below lines) := by
  rw [onLine, onLine, List.map_map]
  rfl

end Reference

/--
A text below which a section begins is read apart from what follows, and the two
outlines are merged.
-/
theorem Outline.parse_append
    (file text : Text) {first : Char} (visible : Text.isBlank first = false)
    (rest : Text) :
    Outline.parse file (text ++ '\n' :: first :: rest) =
      (Outline.parse file text).merge
        ((Outline.parse file (first :: rest)).below text.lines.length) := by
  have begins := Text.beginsSection_lines visible rest
  have sectionsEq :
      (Outline.parse file (text ++ '\n' :: first :: rest)).sections =
        Named.merge Section.merge (Outline.parse file text).sections
          ((Outline.parse file (first :: rest)).sections.map
            (·.below text.lines.length)) := by
    rw [Layout.parse_sections, Layout.parse_sections, Layout.parse_sections,
      Text.lines_append]
    exact Layout.sections_append text.lines begins
  have referencesEq :
      (Outline.parse file (text ++ '\n' :: first :: rest)).references =
        (Outline.parse file text).references ++
          (Outline.parse file (first :: rest)).references.map
            (·.below text.lines.length) := by
    simp only [Outline.parse, Text.numberedLines_append, List.flatMap_append,
      List.flatMap_map, List.map_flatMap, ← Reference.onLine_add]
    rfl
  rw [Outline.merge, Outline.below, ← sectionsEq, ← referencesEq]

/--
A section and its subsection are opened again by the second text.  Only the
header that the first text repeats is recorded.
-/
theorem Outline.parse_append_reopened :
    Text.isBlank 'd' = false ∧
      Outline.parse []
          ("drinks\n  hot\n  hot".toList ++ '\n' :: 'd' ::
            "rinks\n  hot\n    [tea]".toList) =
        ⟨[⟨"drinks".toList,
            [⟨"hot".toList, ⟨2, 3⟩, [⟨"[tea]".toList, ⟨6, 5⟩⟩]⟩],
            [],
            [⟨⟨"hot".toList, ⟨3, 3⟩⟩, 2⟩],
            [⟨1, "drinks".toList⟩, ⟨4, "drinks".toList⟩]⟩],
          [⟨"tea".toList, ⟨6, 5⟩, []⟩]⟩ := by
  have visible : Text.isBlank 'd' = false := by decide
  refine ⟨visible, ?_⟩
  rw [Outline.parse_append [] _ visible]
  decide +kernel

end OutlineLint
