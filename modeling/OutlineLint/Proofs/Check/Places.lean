import OutlineLint.Proofs.Balance.Pinpoint
import OutlineLint.Proofs.Check.Messages
import OutlineLint.Proofs.Outline.Attachment
import OutlineLint.Proofs.Reference.Spans
import OutlineLint.Proofs.Text.Trailing

/-!
# Places of findings

Every finding stands in the text: in one of its rows and at one of the
characters of the line there.  What the finding says can be read at its place.
A bracket is found at its position and an opening one before it; a duplicate
follows the spaces before its column and is followed by blanks only; an
unresolved reference stands between its `[` and the next `]`.
-/

namespace OutlineLint

open OutlineLine

/--
The line is the one in the row of the position, and the column
is one of its characters.
-/
structure Position.LiesIn (position : Position) (text line : Text) : Prop where
  row_pos : 1 ≤ position.row
  row_le : position.row ≤ text.lines.length
  isLine : text.lines[(position.row - 1).toNat]? = some line
  col_pos : 1 ≤ position.col
  col_le : position.col ≤ line.length

/-- The text begins and ends with characters that are no blanks. -/
def Text.VisibleEnds (text : Text) : Prop :=
  (∃ first ∈ text.head?, isBlank first = false) ∧
    ∃ last ∈ text.getLast?, isBlank last = false

/-- What a finding says is read in the text, at the position in the line. -/
inductive FindingDetail.ReadAt (text line : Text) (position : Position) :
    FindingDetail → Prop where
  /--
  The bracket stands at the position, behind the opening
  one that expects another.
  -/
  | balance
      {fault : BracketFault} {bracket : Char}
      {openedAt : Option Position} {expected : Option Text}
      (stands : text.StandsAt bracket position)
      (opens : ∀ opening ∈ openedAt,
        opening.Precedes position ∧ ∃ opened : Bracket,
          text.StandsAt opened.opener opening ∧
            expected = some [opened.closer]) :
      ReadAt text line position (.balance fault [bracket] openedAt expected)
  /--
  The line has spaces up to the column, then the content, and then blanks only.
  -/
  | duplicate
      {scope content blanks : Text} {firstRow : Int}
      (whole :
        line =
          List.replicate (position.col - 1).toNat ' ' ++ (content ++ blanks))
      (visible : content.VisibleEnds)
      (allBlank : blanks.AllBlank) :
      ReadAt text line position (.duplicate scope content firstRow)
  /--
  The reference is the trimmed text between the bracket at the
  column and the next one.
  -/
  | unresolved
      {fault : ReferenceFault} {span : Text} {first second : Option Text}
      (stands : line.HasSpan (position.col, span)) :
      ReadAt text line position (.unresolved fault span.trim first second)

/-- The finding lies in the text and can be read there. -/
def Finding.AccurateIn (finding : Finding) (text : Text) : Prop :=
  ∃ line : Text, finding.position.LiesIn text line ∧
    finding.detail.ReadAt text line finding.position

theorem Position.liesIn_of_getElem?
    {position : Position} {text line : Text} {row col : Nat}
    (rowEq : position.row = row + 1) (isLine : text.lines[row]? = some line)
    (colEq : position.col = col + 1) (inLine : col < line.length) :
    position.LiesIn text line where
  row_pos := by omega
  row_le := by
    have inText := (List.getElem?_eq_some_iff.mp isLine).1
    omega
  isLine := by
    have index : (position.row - 1).toNat = row := by omega
    rw [index, isLine]
  col_pos := by omega
  col_le := by omega

/-! ## Brackets -/

/--
A bracket finding is accurate if the brackets that it names stand where it says.
-/
theorem Text.StandsAt.accurateIn
    {text : Text} {bracket : Char} {position : Position}
    (stands : text.StandsAt bracket position) (file : Text)
    (fault : BracketFault) {openedAt : Option Position} {expected : Option Text}
    (opens : ∀ opening ∈ openedAt,
      opening.Precedes position ∧ ∃ opened : Bracket,
        text.StandsAt opened.opener opening ∧ expected = some [opened.closer]) :
    Finding.AccurateIn ⟨file, position,
        .balance fault [bracket] openedAt expected⟩
      text := by
  have ⟨row, col, line, placeEq, isLine, found⟩ := stands
  have inLine := (List.getElem?_eq_some_iff.mp found).1
  have lies : position.LiesIn text line := by
    rw [placeEq]
    exact Position.liesIn_of_getElem? rfl isLine rfl inLine
  exact ⟨line, lies, .balance stands opens⟩

theorem Finding.Pinpoints.accurateIn
    {file text : Text} {finding : Finding}
    (pinpoints : finding.Pinpoints file text) :
    finding.AccurateIn text := by
  cases pinpoints with
  | unmatched closes _ _ _ =>
      exact closes.stands.accurateIn file .unmatched nofun
  | mismatched opens closes order _ _ _ _ _ =>
      apply closes.stands.accurateIn file .mismatched
      rintro _ ⟨⟩
      exact ⟨order, _, opens.stands, rfl⟩
  | unclosed opens _ _ _ _ => exact opens.stands.accurateIn file .unclosed nofun

theorem Balance.accurateIn_of_finding?
    {file text : Text} {finding : Finding}
    (found : Balance.finding? file text = some finding) :
    finding.AccurateIn text := by
  obtain ⟨problem, isProblem, rfl⟩ := Option.map_eq_some_iff.mp found
  rw [problem?_eq_scan_walk] at isProblem
  have nothingRead : Reached [] [] := Balanced.empty
  exact (scan_pinpoints file nothingRead text isProblem).accurateIn

/-! ## Items -/

theorem Text.visibleEnds_trimRight_cons
    {first : Char} (visible : isBlank first = false) (rest : Text) :
    (trimRight (first :: rest)).VisibleEnds := by
  have nonempty : trimRight (first :: rest) ≠ [] := by
    rw [trimRight_cons visible]
    exact List.cons_ne_nil _ _
  constructor
  · exact ⟨first, by rw [trimRight_cons visible]; rfl, visible⟩
  · have last := List.rdropWhile_last_not isBlank (first :: rest) nonempty
    exact
      ⟨_, List.getLast?_eq_some_getLast nonempty, Bool.eq_false_iff.mpr last⟩

/--
An indented line is its trimmed content between the spaces and further blanks.
-/
theorem OutlineLine.Indented.exists_content
    {spaces : Nat} {line : Text} (indented : Indented spaces line) :
    ∃ blanks : Text,
      line = List.replicate spaces ' ' ++ (line.trim ++ blanks) ∧
        line.trim.VisibleEnds ∧ blanks.AllBlank := by
  obtain ⟨first, rest, rfl, visible⟩ := indented
  have trimmed :
      Text.trim (List.replicate spaces ' ' ++ first :: rest) =
        Text.trimRight (first :: rest) := by
    rw [trim_indented_cons visible, Text.trimRight_cons visible]
  obtain ⟨blanks, allBlank, whole⟩ := Text.exists_trailing (first :: rest)
  rw [trimmed]
  refine ⟨blanks, ?_, Text.visibleEnds_trimRight_cons visible rest, allBlank⟩
  rw [← whole]

/-- The item is made by one of the lines, which is indented. -/
def Item.ComesFrom (item : Item) (lines : List Text) : Prop :=
  ∃ (above : List Text) (line : Text) (below : List Text) (spaces : Nat),
    lines = above ++ line :: below ∧ Indented spaces line ∧
      Layout.itemOf above line = item

namespace Layout

theorem comesFrom_of_mem_allItems
    {lines : List Text} {opened : Section} (isSection : opened ∈ sections lines)
    {item : Item} (member : item ∈ opened.allItems) :
    item.ComesFrom lines := by
  have inDraft : item ∈ (draft lines).allItems :=
    List.mem_flatMap.mpr ⟨opened, isSection, member⟩
  rw [(allItems_draft lines).mem_iff, allEntries, mem_collect_iff] at inDraft
  obtain ⟨above, line, below, whole, picked⟩ := inDraft
  split at picked
  · next isEntry =>
      obtain ⟨spaces, indented⟩ := isEntry.1.exists_indented
      exact
        ⟨above, line, below, spaces, whole, indented, Option.some.inj picked⟩
  · cases picked

theorem comesFrom_of_mem_repeatedHeaders
    {lines : List Text} {opened : Section} (isSection : opened ∈ sections lines)
    {again : RepeatedHeader} (member : again ∈ opened.repeatedHeaders) :
    again.header.ComesFrom lines := by
  obtain ⟨name, _, rfl⟩ := (mem_sections_iff _ _).mp isSection
  obtain ⟨above, line, below, whole, picked⟩ :=
    (mem_collect_iff _ _ _).mp member
  split at picked
  · next isHeader =>
      obtain ⟨opening, _, rfl⟩ := Option.map_eq_some_iff.mp picked
      exact ⟨above, line, below, 2, whole, isHeader.1.1, rfl⟩
  · cases picked

end Layout

theorem Item.ComesFrom.accurateIn
    {text : Text} {item : Item} (comesFrom : item.ComesFrom text.lines)
    (file scope : Text) (firstRow : Int) :
    Finding.AccurateIn ⟨file, item.position,
        .duplicate scope item.text firstRow⟩
      text := by
  obtain ⟨above, line, below, spaces, whole, indented, rfl⟩ := comesFrom
  obtain ⟨blanks, lineEq, visible, allBlank⟩ := indented.exists_content
  rw [Layout.itemOf_of_indented indented]
  have isLine : text.lines[above.length]? = some line := by
    rw [whole, List.getElem?_append_right (Nat.le_refl _)]
    simp
  have inLine : spaces < line.length := by
    obtain ⟨first, rest, rfl, _⟩ := indented
    simp
  exact ⟨line, Position.liesIn_of_getElem? rfl isLine rfl inLine,
    .duplicate (by simpa using lineEq) visible allBlank⟩

theorem Duplicate.accurateIn_of_mem_findings
    {file text : Text} {finding : Finding}
    (member : finding ∈ findings file (Outline.parse file text)) :
    finding.AccurateIn text := by
  obtain ⟨opened, isSection, inSection⟩ := List.mem_flatMap.mp member
  obtain ⟨scope, repetition, reported, rfl⟩ :=
    exists_reportedIn_of_mem_sectionFindings inSection
  rw [Layout.parse_sections] at isSection
  have comesFrom : repetition.item.ComesFrom text.lines := by
    cases reported with
    | own isOwn =>
        have isItem := item_mem_of_mem_repetitions isOwn
        exact Layout.comesFrom_of_mem_allItems isSection
          (List.mem_append_left _ isItem)
    | header isRecorded =>
        exact Layout.comesFrom_of_mem_repeatedHeaders isSection isRecorded
    | inPart isPart isIn =>
        have isItem := item_mem_of_mem_repetitions isIn
        exact Layout.comesFrom_of_mem_allItems isSection
          (List.mem_append_right _ (List.mem_flatMap.mpr ⟨_, isPart, isItem⟩))
  exact comesFrom.accurateIn file scope repetition.firstRow

/-! ## References -/

/-- A reference of a text stands in the line in its row. -/
theorem Outline.exists_hasSpan_of_mem_references
    {file text : Text} {reference : Reference}
    (isReference : reference ∈ (Outline.parse file text).references) :
    ∃ line : Text, reference.position.LiesIn text line ∧
      line.HasSpan (reference.position.col, reference.text) := by
  obtain ⟨⟨line, row⟩, isNumbered, onLine⟩ := List.mem_flatMap.mp isReference
  obtain ⟨rowEq, hasSpan⟩ := Reference.hasSpan_of_mem_onLine onLine
  obtain ⟨counted, isLine⟩ :=
    List.mem_zipIdx_iff_le_and_getElem?_sub.mp isNumbered
  refine ⟨line, ?_, hasSpan⟩
  obtain ⟨before, after, lineEq, colEq, _, _⟩ := hasSpan
  have inLine : before.length < line.length := by
    rw [lineEq]
    simp
  exact Position.liesIn_of_getElem? (by omega) isLine colEq inLine

theorem Resolution.accurateIn_of_mem_findings
    {file text : Text} {finding : Finding}
    (member : finding ∈ findings (Outline.parse file text)) :
    finding.AccurateIn text := by
  obtain ⟨reference, isReference, found⟩ := List.mem_filterMap.mp member
  obtain ⟨line, lies, hasSpan⟩ :=
    Outline.exists_hasSpan_of_mem_references isReference
  rw [finding?_eq_some_iff] at found
  cases found <;> exact ⟨line, lies, .unresolved hasSpan⟩

/-! ## All findings -/

/-- Every finding about a text lies in the text and can be read there. -/
theorem Check.findings_accurate
    (file text : Text) (finding : Finding)
    (member : finding ∈ findings file text) :
    finding.AccurateIn text := by
  rcases mem_findings_cases member with bracket | duplicate | unresolved
  · exact Balance.accurateIn_of_finding? bracket
  · exact Duplicate.accurateIn_of_mem_findings duplicate
  · exact Resolution.accurateIn_of_mem_findings unresolved

/--
A duplicate stands before a tab and a line ending, and a
reference has blanks inside.
-/
def Check.blankedDrinks : Text :=
  "drinks\r\n    Tea\r\n     tea\t\r\n    hot [ soup\t] ".toList

theorem Check.findings_accurate_blankedDrinks :
    findings [] blankedDrinks =
        [⟨[], ⟨3, 6⟩, .duplicate "drinks".toList "tea".toList 2⟩,
          ⟨[], ⟨4, 9⟩, .unresolved .unknownSection "soup".toList none none⟩] ∧
      Finding.AccurateIn ⟨[], ⟨3, 6⟩, .duplicate "drinks".toList "tea".toList 2⟩
          blankedDrinks ∧
        Finding.AccurateIn ⟨[], ⟨4, 9⟩,
            .unresolved .unknownSection "soup".toList none none⟩
          blankedDrinks := by
  have found :
      findings [] blankedDrinks =
        [⟨[], ⟨3, 6⟩, .duplicate "drinks".toList "tea".toList 2⟩,
          ⟨[], ⟨4, 9⟩,
            .unresolved .unknownSection "soup".toList none none⟩] := by
    decide +kernel
  refine ⟨found, ?_, ?_⟩
  · exact findings_accurate [] blankedDrinks _ (by simp [found])
  · exact findings_accurate [] blankedDrinks _ (by simp [found])

end OutlineLint
