import OutlineLint.Check
import OutlineLint.Proofs.Balance.Scan
import OutlineLint.Proofs.Outline.Reading
import OutlineLint.Proofs.Outline.Trailing
import OutlineLint.Proofs.Reference.Spans

/-!
# Checking and trailing blanks

The findings about a text depend on its lines up to their last visible
characters.  Brackets and references hold no trailing blanks, and the checks of
an outline do not look at the section headers that it records.  So the blanks
at the ends of lines make no difference, and neither do the line endings, as a
carriage return is such a blank.
-/

namespace OutlineLint

open Text

/-! ## Brackets -/

theorem not_mem_bracketCharacters_of_isBlank
    {character : Char} (blank : isBlank character = true) :
    character ∉ bracketCharacters := by
  intro member
  have visible : bracketCharacters.all (! isBlank ·) = true := by decide
  have notBlank := List.all_eq_true.mp visible character member
  rw [blank] at notBlank
  cases notBlank

theorem closer_not_mem_of_allBlank
    {blanks : Text} (allBlank : AllBlank blanks) :
    ']' ∉ blanks :=
  fun member =>
    not_mem_bracketCharacters_of_isBlank (allBlank _ member) (by decide)

theorem Text.filter_locatedIn_trimRight (row : Nat) (line : Text) :
    (locatedIn row (trimRight line)).filter (Balance.isBracketCharacter ·.1) =
      (locatedIn row line).filter (Balance.isBracketCharacter ·.1) := by
  obtain ⟨blanks, allBlank, whole⟩ := exists_trailing line
  have noBracket (col : Nat) :
      (locatedFrom row col blanks).filter
        (Balance.isBracketCharacter ·.1) = [] := by
    rw [List.filter_eq_nil_iff]
    intro located member
    obtain ⟨numbered, isNumbered, rfl⟩ := List.mem_map.mp member
    have blank := allBlank _ (List.fst_mem_of_mem_zipIdx isNumbered)
    simpa [Balance.isBracketCharacter]
      using not_mem_bracketCharacters_of_isBlank blank
  conv_rhs => rw [whole]
  rw [← locatedFrom_one, ← locatedFrom_one, locatedFrom_append,
    List.filter_append, noBracket, List.append_nil]

/--
The brackets of a text are those of its lines without their trailing blanks.
-/
theorem Balance.problem?_eq_scan_trimmed (text : Text) :
    problem? text =
      scan [] (((text.lines.map trimRight).zipIdx 1).flatMap fun (line, row) =>
        (locatedIn row line).filter (isBracketCharacter ·.1)) := by
  rw [problem?, ← scan_filter isBracketCharacter isBracketCharacter_of_mem,
    located, List.filter_flatMap, List.zipIdx_map, List.flatMap_map,
    numberedLines]
  simp only [Prod.map, id, filter_locatedIn_trimRight]

/-! ## References -/

theorem Reference.onLine_trimRight (file : Text) (row : Int) (line : Text) :
    onLine file row (trimRight line) = onLine file row line := by
  obtain ⟨blanks, allBlank, whole⟩ := exists_trailing line
  conv_rhs =>
    rw [whole, onLine_append file row _ (closer_not_mem_of_allBlank allBlank)]

theorem Outline.references_eq_trimmed (file text : Text) :
    (parse file text).references =
      ((text.lines.map trimRight).zipIdx 1).flatMap fun (line, row) =>
        Reference.onLine file row line := by
  rw [List.zipIdx_map, List.flatMap_map, parse, numberedLines]
  simp only [Prod.map, id, Reference.onLine_trimRight]

/-! ## Outlines without their header lines -/

theorem Duplicate.findings_withoutHeaderLines
    (file : Text) (outline : Outline) :
    findings file outline.withoutHeaderLines = findings file outline := by
  rw [findings, Outline.withoutHeaderLines, List.flatMap_map]
  rfl

theorem Outline.sectionNamed?_withoutHeaderLines
    (outline : Outline) (name : Text) :
    outline.withoutHeaderLines.sectionNamed? name =
      (outline.sectionNamed? name).map Section.withoutHeaderLines := by
  rw [sectionNamed?, withoutHeaderLines, List.find?_map]
  rfl

theorem Resolution.missing?_withoutHeaderLines
    (outline : Outline) (trimmed : Text) :
    missing? outline.withoutHeaderLines trimmed = missing? outline trimmed := by
  unfold missing?
  simp only [Outline.sectionNamed?_withoutHeaderLines]
  split
  · next first second _ _ =>
      cases outline.sectionNamed? (normalizedSegment first) <;> rfl
  · rw [Option.isNone_map]

theorem Resolution.findings_withoutHeaderLines (outline : Outline) :
    findings outline.withoutHeaderLines = findings outline := by
  rw [findings, findings]
  apply congrArg (List.filterMap · outline.references)
  funext reference
  simp only [finding?, missing?_withoutHeaderLines]

theorem Check.outlineNote_withoutHeaderLines (file : Text) (outline : Outline) :
    outlineNote file outline.withoutHeaderLines = outlineNote file outline := by
  rw [outlineNote, Outline.withoutHeaderLines, List.length_map, outlineNote]

/-! ## The whole check -/

theorem Outline.withoutHeaderLines_parse_eq
    (file : Text) {first second : Text}
    (sameLines : first.lines.map trimRight = second.lines.map trimRight) :
    (parse file first).withoutHeaderLines =
      (parse file second).withoutHeaderLines := by
  rw [withoutHeaderLines, withoutHeaderLines, references_eq_trimmed,
    references_eq_trimmed, Layout.parse_sections, Layout.parse_sections,
    ← Layout.withoutHeaderLines_sections_map_trimRight first.lines,
    ← Layout.withoutHeaderLines_sections_map_trimRight second.lines, sameLines]

namespace Check

theorem examine_of_balanced
    {file text : Text} (balanced : Balance.finding? file text = none) :
    examine file text =
      ⟨Duplicate.findings file (Outline.parse file text).withoutHeaderLines
          ++ Resolution.findings (Outline.parse file text).withoutHeaderLines,
        some (outlineNote file
          (Outline.parse file text).withoutHeaderLines)⟩ := by
  rw [examine, balanced, Duplicate.findings_withoutHeaderLines,
    Resolution.findings_withoutHeaderLines, outlineNote_withoutHeaderLines]

/-- Texts with the same lines, but for trailing blanks, are examined alike. -/
theorem examine_eq_of_trimmed_lines
    (file : Text) {first second : Text}
    (sameLines : first.lines.map trimRight = second.lines.map trimRight) :
    examine file first = examine file second := by
  have sameBrackets :
      Balance.finding? file first = Balance.finding? file second := by
    rw [Balance.finding?, Balance.finding?, Balance.problem?_eq_scan_trimmed,
      sameLines, ← Balance.problem?_eq_scan_trimmed]
  cases found : Balance.finding? file second with
  | some finding => rw [examine, examine, sameBrackets, found]
  | none =>
      rw [examine_of_balanced found,
        examine_of_balanced (sameBrackets.trans found),
        Outline.withoutHeaderLines_parse_eq file sameLines]

/--
Blanks at the ends of the lines, carriage returns among
them, make no difference.
-/
theorem examine_intercalate_append_blanks
    (file : Text) (lines : List (Text × Text))
    (unbroken : ∀ extended ∈ lines, '\n' ∉ extended.1)
    (blank : ∀ extended ∈ lines, ∀ character ∈ extended.2,
      isBlank character = true ∧ character ≠ '\n') :
    examine file
        (['\n'].intercalate (lines.map fun (line, blanks) => line ++ blanks)) =
      examine file (['\n'].intercalate (lines.map fun (line, _) => line)) := by
  cases lines with
  | nil => rfl
  | cons first rest =>
      apply examine_eq_of_trimmed_lines
      rw [map_trimRight_lines_intercalate _ (by simp),
        map_trimRight_lines_intercalate _ (by simp), List.map_map, List.map_map]
      · apply List.map_congr_left
        intro extended member
        exact trimRight_append_of_allBlank (fun character inBlanks =>
          (blank extended member character inBlanks).1) extended.1
      · intro line member
        obtain ⟨extended, isExtended, rfl⟩ := List.mem_map.mp member
        exact unbroken extended isExtended
      · intro line member
        obtain ⟨extended, isExtended, rfl⟩ := List.mem_map.mp member
        have noFeed : '\n' ∉ extended.2 :=
          fun isFeed => (blank extended isExtended _ isFeed).2 rfl
        rw [List.mem_append, not_or]
        exact ⟨unbroken extended isExtended, noFeed⟩

/--
Lines with endings of several kinds; a bracket is open
at the end of one of them.
-/
def mixedEndings : List (Text × Text) :=
  [("drinks".toList, "\r".toList),
    ("  tea, black".toList, " \t\r\r".toList),
    ("  Tea, BLACK".toList, "\u2028\u0085".toList),
    ("  [pantry".toList, []),
    ("  ] [pantry]".toList, "\r".toList),
    ([], "   ".toList)]

/--
The endings do not keep the repeated item and the unknown
section from being found.
-/
theorem examine_mixedEndings :
    (∀ extended ∈ mixedEndings, '\n' ∉ extended.1) ∧
      (∀ extended ∈ mixedEndings, ∀ character ∈ extended.2,
        isBlank character = true ∧ character ≠ '\n') ∧
        (examine ['f']
            ("drinks\r\n  tea, black \t\r\r\n  Tea, BLACK\u2028\u0085\n" ++
              "  [pantry\n  ] [pantry]\r\n   ").toList).findings =
          [⟨['f'], ⟨3, 3⟩, .duplicate "drinks".toList "Tea, BLACK".toList 2⟩,
            ⟨['f'], ⟨5, 5⟩,
              .unresolved .unknownSection "pantry".toList none none⟩] := by
  have unbroken : ∀ extended ∈ mixedEndings, '\n' ∉ extended.1 := by decide
  have blank : ∀ extended ∈ mixedEndings, ∀ character ∈ extended.2,
      isBlank character = true ∧ character ≠ '\n' := by
    have tested :
        (mixedEndings.all fun (_, blanks) =>
          blanks.all fun character => isBlank character && character ≠ '\n') =
            true := by
      decide
    simpa only [List.all_eq_true, Bool.and_eq_true, decide_eq_true_eq]
      using tested
  have joined :
      ['\n'].intercalate (mixedEndings.map fun (line, blanks) =>
          line ++ blanks) =
        ("drinks\r\n  tea, black \t\r\r\n  Tea, BLACK\u2028\u0085\n" ++
          "  [pantry\n  ] [pantry]\r\n   ").toList := by
    decide +kernel
  refine ⟨unbroken, blank, ?_⟩
  rw [← joined,
    examine_intercalate_append_blanks ['f'] mixedEndings unbroken blank]
  decide +kernel

end Check

end OutlineLint
