import OutlineLint.Proofs.Outline.Renumbering
import OutlineLint.Proofs.Outline.Runs

/-!
# Recording a repeated header

A section records the headers of its runs, all but the first of each, in the
order of their rows and with the row of the first.  The record is all that a
repeated header leaves.  The place of the next line stays as it was, and with an
empty line instead of the header every other part of the outline is the same,
whatever stands below.
-/

namespace OutlineLint

open OutlineLine Layout

/-! ## Leaving out a record -/

/-- The section without a record of the header in the row. -/
def Section.withoutRepeat (opened : Section) (row : Int) : Section :=
  { opened with
    repeatedHeaders :=
      opened.repeatedHeaders.filter (·.header.position.row ≠ row) }

/-- The draft without a record of the header in the row. -/
def Draft.withoutRepeat (draft : Draft) (row : Int) : Draft :=
  { draft with sections := draft.sections.map (·.withoutRepeat row) }

namespace Section

variable (opened : Section) (row : Int)

theorem withoutRepeat_attach (heading : Option Heading) (item : Item) :
    (opened.attach heading item).withoutRepeat row =
      (opened.withoutRepeat row).attach heading item := by
  cases heading <;> rfl

theorem withoutRepeat_recordRepeat_of_ne
    {header : Item} (elsewhere : header.position.row ≠ row) (firstRow : Int) :
    (opened.recordRepeat header firstRow).withoutRepeat row =
      (opened.withoutRepeat row).recordRepeat header firstRow := by
  simp [withoutRepeat, recordRepeat, elsewhere]

theorem withoutRepeat_recordRepeat_self (header : Item) (firstRow : Int) :
    (opened.recordRepeat header firstRow).withoutRepeat header.position.row =
      opened.withoutRepeat header.position.row := by
  simp [withoutRepeat, recordRepeat]

theorem withoutRepeat_eq_self
    (elsewhere :
      ∀ again ∈ opened.repeatedHeaders, again.header.position.row ≠ row) :
    opened.withoutRepeat row = opened := by
  have kept : opened.repeatedHeaders.filter (·.header.position.row ≠ row) =
      opened.repeatedHeaders :=
    List.filter_eq_self.mpr fun again member => by
      simpa using elsewhere again member
  rw [withoutRepeat, kept]

end Section

namespace Draft

theorem withoutRepeat_alterSection
    (draft : Draft) (name : Text) {change : Section → Section} {row : Int}
    (corresponds : ∀ opened : Section,
      (change opened).withoutRepeat row = change (opened.withoutRepeat row)) :
    (draft.alterSection name change).withoutRepeat row =
      (draft.withoutRepeat row).alterSection name change := by
  have altered :=
    Named.map_alter (Section.withoutRepeat · row) change change
      (fun _ => rfl) corresponds name
      (Section.empty name) draft.sections
  exact congrArg (Draft.mk · draft.place) altered

theorem withoutRepeat_enter
    (draft : Draft) (sectionName : Text) (heading : Heading) (row : Int) :
    (openSubsection?.enter draft sectionName heading).withoutRepeat row =
      openSubsection?.enter (draft.withoutRepeat row) sectionName heading := by
  have entered :
      (draft.alterSection sectionName (·.enter heading)).withoutRepeat
          row = _ :=
    draft.withoutRepeat_alterSection sectionName fun _ => rfl
  exact
    congrArg
      (fun entered : Draft =>
        { entered with place := some ⟨sectionName, some heading⟩ })
      entered

theorem withoutRepeat_openSubsection?
    (draft : Draft) (name : Text) {header : Item} {row : Int}
    (elsewhere : header.position.row ≠ row) :
    (draft.openSubsection? name header).map (·.withoutRepeat row) =
      (draft.withoutRepeat row).openSubsection? name header := by
  have samePlace : (draft.withoutRepeat row).place = draft.place := rfl
  rw [openSubsection?, openSubsection?, samePlace]
  split
  · rfl
  · exact congrArg some (draft.withoutRepeat_enter _ ⟨name, header⟩ row)
  · next sectionName current _ =>
      split
      · have recorded :=
          draft.withoutRepeat_alterSection sectionName
            fun opened =>
              opened.withoutRepeat_recordRepeat_of_ne row elsewhere
                current.header.position.row
        exact congrArg some recorded
      · exact congrArg some
          (draft.withoutRepeat_enter sectionName ⟨name, header⟩ row)

theorem withoutRepeat_attach? (draft : Draft) (item : Item) (row : Int) :
    (draft.attach? item).map (·.withoutRepeat row) =
      (draft.withoutRepeat row).attach? item := by
  have samePlace : (draft.withoutRepeat row).place = draft.place := rfl
  rw [attach?, attach?, samePlace]
  split
  · rfl
  · next sectionName heading _ =>
      have attached :=
        draft.withoutRepeat_alterSection sectionName
          fun opened => opened.withoutRepeat_attach row heading item
      exact congrArg some attached

/-- The records of one row have no part in the reading of another. -/
theorem withoutRepeat_read
    (draft : Draft) {row other : Int} (elsewhere : other ≠ row) (line : Text) :
    (draft.read other line).withoutRepeat row =
      (draft.withoutRepeat row).read other line := by
  rw [read, read]
  split
  · next name _ =>
      have altered : (draft.alterSection name id).withoutRepeat row = _ :=
        draft.withoutRepeat_alterSection name fun _ => rfl
      have opened :=
        congrArg (fun opened : Draft =>
            { opened with place := some ⟨name, none⟩ })
          altered
      rw [withoutRepeat_alterSection _ name fun _ => rfl]
      exact congrArg
        (alterSection · name (·.recordHeaderLine other line)) opened
  · next name content _ =>
      have atOther : (Item.ofLine other line content).position.row ≠ row :=
        elsewhere
      rw [← Option.getD_map (withoutRepeat · row),
        withoutRepeat_openSubsection? _ _ atOther]
  · rw [← Option.getD_map (withoutRepeat · row), withoutRepeat_attach?]
  · rfl

end Draft

/-! ## An empty line for a repeated header -/

namespace Layout

theorem withoutRepeat_sectionOf
    {lines : List Text} {row : Int} (belowAll : lines.length < row)
    (name : Text) :
    (sectionOf lines name).withoutRepeat row = sectionOf lines name := by
  apply Section.withoutRepeat_eq_self
  intro again member
  obtain ⟨_, _, _, ⟨above, below, rfl, rfl, _⟩, _, _, headerEq⟩ :=
    mem_repeatedHeaders_iff.mp member
  rw [List.length_append, List.length_cons] at belowAll
  rw [headerEq]
  dsimp only
  omega

section Repeated

variable {above : List Text} {line : Text} (isHeader : IsSubsectionHeader line)
  (repeats : RepeatsAbove above (itemOf above line))

include isHeader repeats

/-- A repeated header leaves a record in the section above, and nothing else. -/
theorem withoutRepeat_draft_snoc :
    (draft (above ++ [line])).withoutRepeat (above.length + 1) =
      draft above := by
  have notSection : ¬ IsSectionHeader line :=
    fun other => other.not_isSubsectionHeader isHeader
  have unrecorded (name : Text) :
      (sectionOf above name).withoutRepeat (above.length + 1) =
        sectionOf above name :=
    withoutRepeat_sectionOf (by omega) name
  have rowEq : (itemOf above line).position.row = above.length + 1 := rfl
  have sectionsEq :
      (sections (above ++ [line])).map (·.withoutRepeat (above.length + 1)) =
        sections above := by
    rw [sections_snoc_of_not notSection, List.map_map, sections]
    apply List.map_congr_left
    intro name _
    rw [Function.comp_apply]
    by_cases isAbove : sectionAbove? above = some name
    · obtain ⟨nearest, isNearest, same⟩ := repeats
      obtain ⟨opening, isOpening⟩ := exists_openingAbove? isNearest
      have sameAsOpening : SameHeader opening (itemOf above line) :=
        (repeatsAbove_iff isOpening _).mp ⟨nearest, isNearest, same⟩
      rw [sectionOf_snoc_repeated isHeader isAbove isOpening sameAsOpening,
        ← rowEq, Section.withoutRepeat_recordRepeat_self, rowEq, unrecorded]
    · rw [sectionOf_snoc_elsewhere isHeader isAbove, unrecorded]
  rw [Draft.withoutRepeat, draft, draft, place?_snoc_repeated isHeader repeats]
  exact congrArg (Draft.mk · (place? above)) sectionsEq

/--
But for the record, a text with a repeated header is read as
with an empty line there.
-/
theorem withoutRepeat_draft (below : List Text) :
    (draft (above ++ line :: below)).withoutRepeat (above.length + 1) =
      draft (above ++ [] :: below) := by
  -- No line below reads the records, so each is read after
  -- the record is left out.
  induction below using List.reverseRecOn with
  | nil =>
      have emptyIgnored : draft (above ++ [[]]) = draft above :=
        (read_draft above []).symm
      rw [emptyIgnored]
      exact withoutRepeat_draft_snoc isHeader repeats
  | append_singleton below last ih =>
      have sameLength :
          (above ++ line :: below).length = (above ++ [] :: below).length := by
        simp
      have further :
          (((above ++ line :: below).length + 1 : Nat) : Int) ≠
              above.length + 1 := by
        rw [List.length_append, List.length_cons]
        omega
      rw [← List.cons_append, ← List.append_assoc, ← List.cons_append,
        ← List.append_assoc, ← read_draft, Draft.withoutRepeat_read _ further,
        ih, sameLength, read_draft]

end Repeated

end Layout

/-! ## The records of a text -/

/-- What an outline has recorded of the repeated headers of a text. -/
structure Outline.RecordsRepeats (text : Text) (outline : Outline) : Prop where
  /--
  The records of a section are about the repeated headers in it,
  and tell the run of each.
  -/
  isRecord_iff :
    ∀ opened ∈ outline.sections, ∀ again : RepeatedHeader,
      again ∈ opened.repeatedHeaders ↔
        ∃ (row earlierRow : Int) (line : Text),
          StandsIn text.lines opened.name row line ∧
            RepeatsRow text.lines earlierRow row ∧
            RunBegins text.lines again.firstRow row ∧
            again.header = ⟨line.trim, ⟨row, 3⟩⟩
  inOrder :
    ∀ opened ∈ outline.sections,
      opened.repeatedHeaders.Pairwise fun first second =>
        first.header.position.row < second.header.position.row
  /-- Every repeated header in a section has its record. -/
  hasRecord :
    ∀ (sectionName line : Text) (row earlierRow : Int),
      StandsIn text.lines sectionName row line →
        RepeatsRow text.lines earlierRow row →
        ∃ opened ∈ outline.sections,
          opened.name = sectionName ∧
            ∃ firstRow : Int,
              ⟨⟨line.trim, ⟨row, 3⟩⟩, firstRow⟩ ∈ opened.repeatedHeaders
  /-- A run begins in one row. -/
  run_unique :
    ∀ firstRow otherRow row : Int,
      RunBegins text.lines firstRow row → RunBegins text.lines otherRow row →
        firstRow = otherRow
  /-- Lines that are no headers can be any others of that kind. -/
  headersAlone :
    ∀ file other : Text,
      List.Forall₂ AlikeAsHeaders text.lines other.lines →
        (parse file other).sections.map
            (fun opened => (opened.name, opened.repeatedHeaders)) =
          outline.sections.map fun opened =>
            (opened.name, opened.repeatedHeaders)
  /-- Reading goes on below a repeated header where it was above it. -/
  placeStays :
    ∀ (above : List Text) (line : Text) (below : List Text) (earlierRow : Int),
      text.lines = above ++ line :: below →
        RepeatsRow text.lines earlierRow (above.length + 1) →
          (Draft.empty.readAll ((above ++ [line]).zipIdx 1)).place =
            (Draft.empty.readAll (above.zipIdx 1)).place
  /--
  With an empty line for a repeated header, the sections
  differ in its record only.
  -/
  nothingElse :
    ∀ (file other : Text) (above : List Text) (line : Text) (below : List Text)
        (earlierRow : Int),
      text.lines = above ++ line :: below →
        RepeatsRow text.lines earlierRow (above.length + 1) →
          other.lines = above ++ [] :: below →
            (parse file other).sections =
              outline.sections.map (·.withoutRepeat (above.length + 1))

/-- Reading a text records its repeated headers. -/
theorem Outline.parse_recordsRepeats (file text : Text) :
    (parse file text).RecordsRepeats text := by
  constructor
  case isRecord_iff =>
    intro opened isSection again
    rw [parse_sections] at isSection
    obtain ⟨name, _, rfl⟩ := (mem_sections_iff _ _).mp isSection
    exact mem_repeatedHeaders_iff
  case inOrder =>
    intro opened isSection
    rw [parse_sections] at isSection
    obtain ⟨name, _, rfl⟩ := (mem_sections_iff _ _).mp isSection
    exact pairwise_rows_repeatedHeaders name text.lines
  case hasRecord =>
    intro sectionName line row earlierRow stands repeats
    have isSection :
        sectionOf text.lines sectionName ∈ (parse file text).sections := by
      rw [parse_sections, mem_sections_iff]
      exact ⟨sectionName, stands.mem_sectionNames, rfl⟩
    exact ⟨_, isSection, rfl, stands.exists_record repeats⟩
  case run_unique =>
    exact fun _ _ _ begins otherBegins => begins.unique otherBegins
  case headersAlone =>
    intro readAs other alike
    rw [parse_sections, parse_sections, Layout.sections, Layout.sections,
      List.map_map, List.map_map, sectionNames_congr alike]
    apply List.map_congr_left
    intro name _
    exact congrArg (Prod.mk name) (repeatedHeaders_congr alike name).symm
  case placeStays =>
    intro above line below earlierRow whole repeats
    rw [whole] at repeats
    obtain ⟨isHeader, nearest, isNearest, _, same⟩ :=
      (repeatsRow_iff _ _ _ _).mp repeats
    rw [readAll_eq_draft, readAll_eq_draft]
    exact place?_snoc_repeated isHeader ⟨nearest, isNearest, same⟩
  case nothingElse =>
    intro readAs other above line below earlierRow whole repeats otherWhole
    rw [whole] at repeats
    obtain ⟨isHeader, nearest, isNearest, _, same⟩ :=
      (repeatsRow_iff _ _ _ _).mp repeats
    have read := withoutRepeat_draft isHeader ⟨nearest, isNearest, same⟩ below
    rw [parse_sections, parse_sections, whole, otherWhole]
    exact (congrArg Draft.sections read).symm

/-- A header of the section ends a run, although the section stays the same. -/
example :
    (Outline.parse []
        "shop\n  Red Shoes\n    size\n  Red shoes\n  Red SHOES\nshop\n  Red shoes".toList
      ).sections.map Section.repeatedHeaders =
      [[⟨⟨"Red shoes".toList, ⟨4, 3⟩⟩, 2⟩,
          ⟨⟨"Red SHOES".toList, ⟨5, 3⟩⟩, 2⟩]] := by
  decide +kernel

end OutlineLint
