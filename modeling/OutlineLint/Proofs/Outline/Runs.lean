import Mathlib.Logic.Relation
import OutlineLint.Proofs.Outline.Headers
import OutlineLint.Proofs.Outline.Rows

/-!
# Runs of equal headers

A subsection header repeats the one before it if no header stands between the
two, and they have the same first word and the same text apart from case and
outer blanks.  Headers that repeat each other form runs, and a section records
each header of a run but the first, with the row of the first.

Other lines make no difference to the runs.  Recording a header opens nothing:
the text is read as if the line of the repeated header were empty, but for the
record itself.
-/

namespace OutlineLint

open OutlineLine

namespace Layout

/--
Two subsection headers stand in the rows, and no header
of any kind between them.
-/
def NextHeader
    (lines : List Text) (earlierRow : Int) (earlier : Text) (row : Int)
    (line : Text) :
    Prop :=
  ∃ above between below : List Text,
    lines = above ++ earlier :: between ++ line :: below ∧
      earlierRow = above.length + 1 ∧
      row = (above ++ earlier :: between).length + 1 ∧
        IsSubsectionHeader earlier ∧ IsSubsectionHeader line ∧
          ∀ other ∈ between, ¬ IsSectionHeader other ∧
          ¬ IsSubsectionHeader other

/--
The header in the row repeats the header before it, which
stands in the earlier row.
-/
def RepeatsRow (lines : List Text) (earlierRow row : Int) : Prop :=
  ∃ earlier line : Text,
    NextHeader lines earlierRow earlier row line ∧
      earlier.firstWord = line.firstWord ∧ earlier.trim.lower = line.trim.lower

/-- The run of equal headers that ends in the row begins in the first row. -/
def RunBegins (lines : List Text) (firstRow row : Int) : Prop :=
  Relation.ReflTransGen (RepeatsRow lines) firstRow row ∧
    ∀ earlierRow : Int, ¬ RepeatsRow lines earlierRow firstRow

/-! ## The header before a line -/

/--
The nearest header above a line is a subsection header with no header after it.
-/
theorem head?_headersAbove_eq_some_iff (above : List Text) (nearest : Item) :
    (headersAbove above).head? = some nearest ↔
      ∃ (before : List Text) (earlier : Text) (between : List Text),
        above = before ++ earlier :: between ∧ itemOf before earlier = nearest ∧
          IsSubsectionHeader earlier ∧
            ∀ line ∈ between, ¬ IsSectionHeader line ∧
            ¬ IsSubsectionHeader line := by
  constructor
  · intro isNearest
    induction above using List.reverseRecOn with
    | nil => cases isNearest
    | append_singleton above line ih =>
        rw [headersAbove_snoc] at isNearest
        split at isNearest
        · cases isNearest
        · next notSection =>
            split at isNearest
            · next isSubsection =>
                cases isNearest
                exact ⟨above, line, [], rfl, rfl, isSubsection, by simp⟩
            · next notSubsection =>
                obtain ⟨before, earlier, between, rfl, itemEq, isEarlier,
                    plain⟩ :=
                  ih isNearest
                refine ⟨before, earlier, between ++ [line], by simp, itemEq,
                  isEarlier, ?_⟩
                intro other member
                rcases List.mem_append.mp member with inside | last
                · exact plain other inside
                · rw [List.mem_singleton.mp last]
                  exact ⟨notSection, notSubsection⟩
  · rintro ⟨before, earlier, between, rfl, rfl, isEarlier, plain⟩
    have notSection : ¬ IsSectionHeader earlier :=
      fun isSection => isSection.not_isSubsectionHeader isEarlier
    rw [List.append_cons, headersAbove_append_of_plain _ plain,
      headersAbove_snoc, if_neg notSection, if_pos isEarlier]
    rfl

theorem sameHeader_itemOf_iff
    (above otherAbove : List Text) (line other : Text) :
    SameHeader (itemOf above line) (itemOf otherAbove other) ↔
      line.firstWord = other.firstWord ∧
        line.trim.lower = other.trim.lower := by
  rw [SameHeader, itemOf_firstWord, itemOf_firstWord]
  simp [Item.normalized, itemOf]

/-- A line repeats the row of the nearest header above it, if it repeats any. -/
theorem repeatsRow_iff
    (above : List Text) (line : Text) (below : List Text) (earlierRow : Int) :
    RepeatsRow (above ++ line :: below) earlierRow (above.length + 1) ↔
      IsSubsectionHeader line ∧
        ∃ nearest ∈ (headersAbove above).head?,
          nearest.position.row = earlierRow ∧
            SameHeader nearest (itemOf above line) := by
  constructor
  · rintro ⟨earlier, other,
      ⟨before, between, after, whole, earlierRowEq, rowEq, isEarlier,
        isHeader, plain⟩, sameWord, sameText⟩
    obtain ⟨rfl, rfl⟩ := eq_of_length_eq whole (by omega)
    refine ⟨isHeader, itemOf before earlier, ?_, earlierRowEq.symm, ?_⟩
    · exact (head?_headersAbove_eq_some_iff _ _).mpr
        ⟨before, earlier, between, rfl, rfl, isEarlier, plain⟩
    · exact (sameHeader_itemOf_iff _ _ _ _).mpr ⟨sameWord, sameText⟩
  · rintro ⟨isHeader, nearest, isNearest, rfl, same⟩
    obtain ⟨before, earlier, between, rfl, rfl, isEarlier, plain⟩ :=
      (head?_headersAbove_eq_some_iff _ _).mp isNearest
    exact ⟨earlier, line,
      ⟨before, between, below, rfl, rfl, rfl, isEarlier, isHeader, plain⟩,
      (sameHeader_itemOf_iff _ _ _ _).mp same⟩

theorem NextHeader.isSubsectionHeader
    {lines : List Text} {earlierRow row : Int} {earlier line : Text}
    (next : NextHeader lines earlierRow earlier row line) :
    IsSubsectionHeader line := by
  obtain ⟨_, _, _, _, _, _, _, isHeader, _⟩ := next
  exact isHeader

theorem NextHeader.same_of_repeatsRow
    {lines : List Text} {earlierRow otherRow row : Int} {earlier line : Text}
    (next : NextHeader lines earlierRow earlier row line)
    (repeats : RepeatsRow lines otherRow row) :
    earlier.firstWord = line.firstWord ∧
      earlier.trim.lower = line.trim.lower := by
  obtain ⟨above, between, below, rfl, rfl, rfl, isEarlier, _, plain⟩ := next
  obtain ⟨_, nearest, isNearest, _, same⟩ := (repeatsRow_iff _ _ _ _).mp repeats
  have isAlsoNearest :
      itemOf above earlier ∈
          (headersAbove (above ++ earlier :: between)).head? :=
    (head?_headersAbove_eq_some_iff _ _).mpr
      ⟨above, earlier, between, rfl, rfl, isEarlier, plain⟩
  cases Option.mem_unique isNearest isAlsoNearest
  exact (sameHeader_itemOf_iff _ _ _ _).mp same

/-- A header and the next one stand in one section. -/
theorem NextHeader.standsIn
    {lines : List Text} {sectionName : Text} {earlierRow row : Int}
    {earlier line : Text} (next : NextHeader lines earlierRow earlier row line)
    (stands : StandsIn lines sectionName earlierRow earlier) :
    StandsIn lines sectionName row line := by
  obtain ⟨above, between, below, whole, earlierRowEq, rowEq, isEarlier, _,
      plain⟩ :=
    next
  obtain ⟨otherAbove, otherBelow, otherWhole, otherRowEq, isAbove⟩ := stands
  refine ⟨above ++ earlier :: between, below, whole, rowEq, ?_⟩
  rw [List.append_assoc] at whole
  obtain ⟨rfl, -⟩ := eq_of_length_eq (whole.symm.trans otherWhole) (by omega)
  rw [sectionAbove?_append_of_not]
  · exact isAbove
  · intro other member
    rcases List.mem_cons.mp member with rfl | inside
    · exact fun isSection => isSection.not_isSubsectionHeader isEarlier
    · exact (plain other inside).1

/-! ## The first header of a run -/

theorem RepeatsRow.exists_line
    {lines : List Text} {earlierRow row : Int}
    (repeats : RepeatsRow lines earlierRow row) :
    ∃ (above : List Text) (line : Text) (below : List Text),
      lines = above ++ line :: below ∧ row = above.length + 1 := by
  obtain ⟨earlier, line, ⟨above, between, below, whole, _, rowEq, _⟩, _⟩ :=
    repeats
  exact ⟨above ++ earlier :: between, line, below, whole, rowEq⟩

theorem RepeatsRow.earlier_unique
    {lines : List Text} {row earlierRow otherRow : Int}
    (repeats : RepeatsRow lines earlierRow row)
    (otherRepeats : RepeatsRow lines otherRow row) :
    earlierRow = otherRow := by
  obtain ⟨above, line, below, rfl, rfl⟩ := repeats.exists_line
  obtain ⟨_, nearest, isNearest, rfl, _⟩ := (repeatsRow_iff _ _ _ _).mp repeats
  obtain ⟨_, other, isOther, rfl, _⟩ := (repeatsRow_iff _ _ _ _).mp otherRepeats
  cases Option.mem_unique isNearest isOther
  rfl

theorem RunBegins.unique
    {lines : List Text} {firstRow otherRow row : Int}
    (begins : RunBegins lines firstRow row)
    (otherBegins : RunBegins lines otherRow row) :
    firstRow = otherRow := by
  obtain ⟨chain, isFirst⟩ := begins
  obtain ⟨otherChain, otherIsFirst⟩ := otherBegins
  -- Both chains end in the row, and are taken off it step by step.
  induction chain generalizing otherRow with
  | refl =>
      rcases otherChain.cases_tail with same | ⟨middle, _, step⟩
      · exact same
      · exact absurd step (isFirst middle)
  | tail _ step ih =>
      rcases otherChain.cases_tail with rfl | ⟨middle, earlier, otherStep⟩
      · exact absurd step (otherIsFirst _)
      · rw [otherStep.earlier_unique step] at earlier
        exact ih earlier otherIsFirst

theorem exists_openingAbove?
    {above : List Text} {nearest : Item}
    (isNearest : nearest ∈ (headersAbove above).head?) :
    ∃ opening : Item, openingAbove? above = some opening := by
  rw [← Option.isSome_iff_exists, Option.isSome_iff_ne_none]
  intro closed
  rw [(openingAbove?_eq_none_iff above).mp closed] at isNearest
  cases isNearest

/--
The run that ends with the nearest header above begins with
the opening header there.
-/
theorem runBegins_openingAbove?
    {above : List Text} {nearest opening : Item}
    (isNearest : nearest ∈ (headersAbove above).head?)
    (isOpening : openingAbove? above = some opening) (below : List Text) :
    RunBegins (above ++ below) opening.position.row nearest.position.row := by
  induction above using List.reverseRecOn generalizing below nearest with
  | nil => cases isNearest
  | append_singleton above line ih =>
      rw [List.append_assoc, List.singleton_append]
      rw [headersAbove_snoc] at isNearest
      split at isNearest
      · cases isNearest
      · next notSection =>
          split at isNearest
          · next isHeader =>
              cases isNearest
              rw [openingAbove?_snoc_subsectionHeader isHeader] at isOpening
              split at isOpening
              · next repeats =>
                  obtain ⟨earlier, isEarlier, same⟩ := repeats
                  have run := ih isEarlier isOpening (line :: below)
                  have step :
                      RepeatsRow (above ++ line :: below) earlier.position.row
                      (above.length + 1) :=
                    (repeatsRow_iff _ _ _ _).mpr
                      ⟨isHeader, earlier, isEarlier, rfl, same⟩
                  exact ⟨run.1.tail step, run.2⟩
              · next differs =>
                  cases isOpening
                  refine ⟨.refl, fun earlierRow repeats => ?_⟩
                  obtain ⟨_, earlier, isEarlier, _, same⟩ :=
                    (repeatsRow_iff _ _ _ _).mp repeats
                  exact differs ⟨earlier, isEarlier, same⟩
          · next notSubsection =>
              rw [openingAbove?_snoc_of_plain notSection
                notSubsection] at isOpening
              exact ih isNearest isOpening (line :: below)

/--
A header that repeats another has a run, which begins with
the opening header above.
-/
theorem RepeatsRow.exists_opening
    {above : List Text} {line : Text} {below : List Text} {earlierRow : Int}
    (repeats :
      RepeatsRow (above ++ line :: below) earlierRow (above.length + 1)) :
    ∃ opening : Item,
      openingAbove? above = some opening ∧
        RunBegins (above ++ line :: below) opening.position.row
          (above.length + 1) := by
  obtain ⟨_, nearest, isNearest, rfl, _⟩ := (repeatsRow_iff _ _ _ _).mp repeats
  obtain ⟨opening, isOpening⟩ := exists_openingAbove? isNearest
  have run := runBegins_openingAbove? isNearest isOpening (line :: below)
  exact ⟨opening, isOpening, run.1.tail repeats, run.2⟩

theorem RepeatsRow.exists_runBegins
    {lines : List Text} {earlierRow row : Int}
    (repeats : RepeatsRow lines earlierRow row) :
    ∃ firstRow : Int, RunBegins lines firstRow row := by
  obtain ⟨above, line, below, rfl, rfl⟩ := repeats.exists_line
  obtain ⟨opening, _, begins⟩ := repeats.exists_opening
  exact ⟨_, begins⟩

/-! ## What is recorded -/

/--
A header is recorded if it repeats another, with the row
in which its run begins.
-/
theorem mem_repeatedHeaders_iff
    {sectionName : Text} {lines : List Text} {again : RepeatedHeader} :
    again ∈ repeatedHeaders sectionName lines ↔
      ∃ (row earlierRow : Int) (line : Text),
        StandsIn lines sectionName row line ∧ RepeatsRow lines earlierRow row ∧
          RunBegins lines again.firstRow row ∧
          again.header = ⟨line.trim, ⟨row, 3⟩⟩ := by
  rw [repeatedHeaders, mem_collect_iff]
  constructor
  · rintro ⟨above, line, below, rfl, picked⟩
    split at picked
    · next chosen =>
        obtain ⟨isHeader, isAbove, nearest, isNearest, same⟩ := chosen
        have repeats :
            RepeatsRow (above ++ line :: below) nearest.position.row
              (above.length + 1) :=
          (repeatsRow_iff _ _ _ _).mpr ⟨isHeader, nearest, isNearest, rfl, same⟩
        obtain ⟨opening, isOpening, begins⟩ := repeats.exists_opening
        rw [isOpening, Option.map_some, Option.some.injEq] at picked
        subst picked
        exact ⟨above.length + 1, _, line, ⟨above, below, rfl, rfl, isAbove⟩,
          repeats, begins,
          itemOf_of_indented isHeader.1 above⟩
    · cases picked
  · rintro ⟨row, earlierRow, line, ⟨above, below, rfl, rfl, isAbove⟩, repeats,
      begins, headerEq⟩
    obtain ⟨isHeader, nearest, isNearest, rfl, same⟩ :=
      (repeatsRow_iff _ _ _ _).mp repeats
    obtain ⟨opening, isOpening, alsoBegins⟩ := repeats.exists_opening
    refine ⟨above, line, below, rfl, ?_⟩
    rw [if_pos ⟨isHeader, isAbove, nearest, isNearest, same⟩, isOpening,
      Option.map_some, itemOf_of_indented isHeader.1,
      ← begins.unique alsoBegins]
    exact congrArg some
      (congrArg (RepeatedHeader.mk · again.firstRow) headerEq.symm)

/-- Every repeated header in a section has a record. -/
theorem StandsIn.exists_record
    {lines : List Text} {sectionName line : Text} {row earlierRow : Int}
    (stands : StandsIn lines sectionName row line)
    (repeats : RepeatsRow lines earlierRow row) :
    ∃ firstRow : Int,
      ⟨⟨line.trim, ⟨row, 3⟩⟩, firstRow⟩ ∈
        repeatedHeaders sectionName lines := by
  obtain ⟨firstRow, begins⟩ := repeats.exists_runBegins
  exact ⟨firstRow,
    mem_repeatedHeaders_iff.mpr ⟨row, _, line, stands, repeats, begins, rfl⟩⟩

end Layout

end OutlineLint
