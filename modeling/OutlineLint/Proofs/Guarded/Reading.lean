import OutlineLint.Proofs.Outline.Growth
import OutlineLint.Proofs.Outline.Merge
import OutlineLint.Proofs.Outline.Reading
import OutlineLint.Proofs.Outline.Steps

/-!
# Guarded reading

Reading an outline needs things that a text does not have to have: the first
word of a line, an open section, the header with which the open subsection was
entered.  Here every such need can fail.  The cursor holds the section, the
subsection and the header separately, each of them perhaps absent, and what it
refers to may be missing in the outline.

No text makes any of them fail, and what is read is the outline of the text.  A
cursor that a text has led to is that of a draft, which has its section and its
subsection, and a header beside every open subsection.
-/

namespace OutlineLint.Guarded

open OutlineLine Text

/-- Something that is needed and absent. -/
inductive Breach where
  | noWord
  | noSection
  | noSubsection
  | noHeader
  /-- No bracket is open where one is closed. -/
  | noPending
  /-- The partner of a character that is no bracket. -/
  | noPartner
  /-- The row of a text that has not been seen. -/
  | noFirstRow
  | notTwoSegments
  deriving DecidableEq, Repr

def require {Value : Type} (value : Option Value) (breach : Breach) :
    Except Breach Value :=
  match value with
  | none => .error breach
  | some value => .ok value

theorem require_some {Value : Type} (value : Value) (breach : Breach) :
    require (some value) breach = .ok value :=
  rfl

theorem ok_bind
    {Value Result : Type} (value : Value)
    (next : Value → Except Breach Result) :
    (Except.ok value >>= next) = next value :=
  rfl

/-! ## Words -/

/-- The words that blanks separate. -/
def words (text : Text) : List Text :=
  (text.splitOnP isBlank).filter (!·.isEmpty)

def leadingWord (text : Text) : Except Breach Text :=
  require (words text).head? .noWord

theorem head?_splitOnP (text : Text) :
    (text.splitOnP isBlank).head? = some (text.takeWhile (!isBlank ·)) := by
  induction text with
  | nil => rfl
  | cons character rest ih =>
      rw [List.splitOnP_cons_eq_if_modifyHead]
      by_cases blank : isBlank character = true
      · rw [if_pos blank, List.takeWhile_cons_of_neg (by simp [blank])]
        rfl
      · rw [if_neg blank, List.head?_modifyHead, ih,
          List.takeWhile_cons_of_pos (by simpa using blank)]
        rfl

/-- A text that begins with a visible character has a first word. -/
theorem leadingWord_cons
    {first : Char} (visible : isBlank first = false) (rest : Text) :
    leadingWord (first :: rest) = .ok (firstWord (first :: rest)) := by
  obtain ⟨more, split⟩ :=
    List.head?_eq_some_iff.mp (head?_splitOnP (first :: rest))
  have wordEq :
      (first :: rest).takeWhile (!isBlank ·) = firstWord (first :: rest) := by
    rw [firstWord, trimLeft, List.dropWhile_cons_of_neg (by simp [visible])]
  have nonempty : firstWord (first :: rest) ≠ [] := by
    rw [← wordEq, List.takeWhile_cons_of_pos (by simp [visible])]
    exact List.cons_ne_nil _ _
  rw [leadingWord, words, split, wordEq,
    List.filter_cons_of_pos (by simpa using nonempty)]
  rfl

/--
The trimmed content of an indented line has a first word,
which is that of the line.
-/
theorem leadingWord_trim
    {spaces : Nat} {line : Text} (indented : Indented spaces line) :
    leadingWord line.trim = .ok line.firstWord := by
  obtain ⟨first, rest, rfl, visible⟩ := indented
  rw [← firstWord_trim, trim_indented_cons visible, leadingWord_cons visible]

theorem trim_drop_indented
    {spaces : Nat} {line : Text} (indented : Indented spaces line) :
    trim (line.drop spaces) = line.trim := by
  obtain ⟨first, rest, rfl, _⟩ := indented
  rw [List.drop_left' List.length_replicate, trim_indented]

/-! ## Cursors -/

/-- Where the next line belongs, each part by itself. -/
structure Cursor where
  sections : List Section
  sectionName : Option Text
  subsectionName : Option Text
  header : Option Item
  deriving DecidableEq, Repr

/-- Changes the entry of a name, which has to be there. -/
def changeEntry {Entry : Type} [Named Entry]
    (breach : Breach) (wanted : Text) (change : Entry → Except Breach Entry)
    (entries : List Entry) : Except Breach (List Entry) := do
  let entry ← require (Named.find? wanted entries) breach
  let changed ← change entry
  -- The name occurs, so that the fallback for a missing entry is of no account.
  return Named.alter wanted entry (fun _ => changed) entries

namespace Cursor

def start : Cursor :=
  ⟨[], none, none, none⟩

def openSection (cursor : Cursor) (name : Text) : Cursor :=
  ⟨Named.alter name (Section.empty name) id cursor.sections, some name, none,
    none⟩

/-- Changes the open section. -/
def changeSection (cursor : Cursor) (change : Section → Except Breach Section) :
    Except Breach Cursor := do
  let name ← require cursor.sectionName .noSection
  let sections ← changeEntry .noSection name change cursor.sections
  return { cursor with sections := sections }

/--
The open subsection has the name, and its header says the same as the given one.
-/
def repeats (cursor : Cursor) (name : Text) (header : Item) :
    Except Breach Bool :=
  if cursor.subsectionName = some name then do
    -- Only here is the header looked at, and it may be absent
    -- beside the subsection.
    let stored ← require cursor.header .noHeader
    return stored.normalized = header.normalized
  else
    return false

def openSubsection (cursor : Cursor) (name : Text) (header : Item) :
    Except Breach Cursor := do
  if ← cursor.repeats name header then
    let stored ← require cursor.header .noHeader
    cursor.changeSection fun opened =>
      .ok (opened.recordRepeat header stored.position.row)
  else
    let entered ← cursor.changeSection fun opened =>
      .ok (opened.enter ⟨name, header⟩)
    return { entered with subsectionName := some name, header := some header }

def attach (cursor : Cursor) (item : Item) : Except Breach Cursor :=
  cursor.changeSection fun opened =>
    match cursor.subsectionName with
    | none => .ok { opened with items := opened.items ++ [item] }
    | some name => do
        let parts ←
          changeEntry .noSubsection name
            (fun part => .ok { part with items := part.items ++ [item] })
            opened.subsections
        return { opened with subsections := parts }

/-- Reads a line that two spaces indent. -/
def readSecond (cursor : Cursor) (row : Int) (line content : Text) :
    Except Breach Cursor :=
  if Label.isLabel content then do
    let name ← leadingWord content
    cursor.openSubsection name (Item.ofLine row line content)
  else
    cursor.attach (Item.ofLine row line content)

def read (cursor : Cursor) (row : Int) (line : Text) : Except Breach Cursor :=
  if Indented 0 line then do
    let name ← leadingWord line.trim
    (cursor.openSection name).changeSection fun opened =>
      .ok (opened.recordHeaderLine row line)
  else if Indented 2 line then
    if cursor.sectionName.isNone then
      return cursor
    else
      cursor.readSecond row line (trim (line.drop 2))
  else if 4 ≤ indentation line ∧ Indented (indentation line) line ∧
      cursor.sectionName.isSome then
    cursor.attach (Item.ofLine row line (trim (line.drop (indentation line))))
  else
    return cursor

end Cursor

/-! ## Changing what is there -/

theorem alter_of_find?
    {Entry : Type} [Named Entry] {wanted : Text} {entries : List Entry}
    {entry : Entry}
    (found : Named.find? wanted entries = some entry) (change : Entry → Entry)
    (fresh : Entry) :
    Named.alter wanted entry (fun _ => change entry) entries =
      Named.alter wanted fresh change entries := by
  induction entries with
  | nil => cases found
  | cons first rest ih =>
      rw [Named.find?, List.find?_cons] at found
      rw [Named.alter, Named.alter]
      by_cases same : Named.name first = wanted
      · simp only [same, decide_true, Option.some.injEq] at found
        rw [if_pos same, if_pos same, found]
      · simp only [same, decide_false] at found
        rw [if_neg same, if_neg same, ih found]

/-- A change that succeeds at an entry that is there succeeds. -/
theorem changeEntry_eq_ok
    {Entry : Type} [Named Entry] {wanted : Text} {entries : List Entry}
    {entry : Entry} (found : Named.find? wanted entries = some entry)
    {change : Entry → Except Breach Entry} {changed : Entry → Entry}
    (succeeds : change entry = .ok (changed entry)) (breach : Breach)
    (fresh : Entry) :
    changeEntry breach wanted change entries =
      .ok (Named.alter wanted fresh changed entries) := by
  rw [changeEntry, found, require_some, ok_bind, succeeds, ok_bind,
    alter_of_find? found changed fresh]
  rfl

/-! ## Cursors of drafts -/

/-- What lines make has its place, and names in it are distinct. -/
theorem wellFormed_draft (lines : List Text) :
    (Layout.draft lines).WellFormed where
  sectionNames := by
    rw [Layout.draft, Layout.names_sections]
    exact Layout.nodup_eraseDups _
  subsectionNames := by
    intro opened member
    obtain ⟨name, _, rfl⟩ := List.mem_map.mp member
    rw [Layout.names_subsections]
    exact Layout.nodup_eraseDups _
  place := by
    intro place isOpen
    obtain ⟨name, isAbove, rfl⟩ := Option.map_eq_some_iff.mp isOpen
    refine ⟨Layout.sectionOf lines name, ?_, ?_⟩
    · rw [Layout.draft, Layout.sections, Named.find?_map_of_named fun _ => rfl,
        if_pos (List.mem_eraseDups.mpr
          (Layout.mem_sectionNames_of_sectionAbove? isAbove))]
    · intro heading isHeading
      rw [Layout.names_subsections, List.mem_eraseDups]
      exact Layout.mem_subsectionNames_of_headingAbove? isAbove isHeading

namespace Cursor

/-- The cursor of a draft has a header exactly if it has a subsection. -/
def ofDraft (draft : Draft) : Cursor where
  sections := draft.sections
  sectionName := draft.place.map Place.sectionName
  subsectionName := draft.currentHeading?.map Heading.name
  header := draft.currentHeader?

section Open

variable {draft : Draft} {place : Place} (isOpen : draft.place = some place)

include isOpen

theorem sectionName_ofDraft :
    (ofDraft draft).sectionName = some place.sectionName := by
  rw [ofDraft, isOpen]
  rfl

theorem subsectionName_ofDraft :
    (ofDraft draft).subsectionName = place.heading.map Heading.name := by
  rw [ofDraft, Draft.currentHeading?, isOpen]
  rfl

theorem header_ofDraft :
    (ofDraft draft).header = place.heading.map Heading.header := by
  rw [ofDraft, Draft.currentHeader?, Draft.currentHeading?, isOpen]
  rfl

theorem repeats_ofDraft (name : Text) (header : Item) :
    (ofDraft draft).repeats name header =
      .ok (place.heading.any (·.isRepeatedBy name header)) := by
  rw [repeats, subsectionName_ofDraft isOpen, header_ofDraft isOpen]
  cases place.heading with
  | none => rfl
  | some current =>
      by_cases same : current.name = name
      · simp [same, require_some, Heading.isRepeatedBy]
      · simp [same, Heading.isRepeatedBy]
        rfl

variable (wellFormed : draft.WellFormed)

include wellFormed

theorem changeSection_ofDraft
    {change : Section → Except Breach Section} {changed : Section → Section}
    (succeeds : ∀ opened : Section,
      (∀ heading ∈ place.heading,
          heading.name ∈ opened.subsections.map Subsection.name) →
        change opened = .ok (changed opened)) :
    (ofDraft draft).changeSection change =
      .ok (ofDraft (draft.alterSection place.sectionName changed)) := by
  obtain ⟨opened, found, known⟩ := wellFormed.place place isOpen
  have altered :
      changeEntry .noSection place.sectionName change (ofDraft draft).sections =
        .ok (Named.alter place.sectionName
          (Section.empty place.sectionName) changed
            draft.sections) :=
    changeEntry_eq_ok found (succeeds opened known) .noSection _
  rw [changeSection, sectionName_ofDraft isOpen, require_some, ok_bind, altered,
    ok_bind, ← sectionName_ofDraft isOpen]
  rfl

theorem openSubsection_ofDraft (name : Text) (header : Item) :
    (ofDraft draft).openSubsection name header =
      .ok (ofDraft ((draft.openSubsection? name header).getD draft)) := by
  obtain ⟨sectionName, heading⟩ := place
  have entered :
      (ofDraft draft).changeSection
          (fun opened => .ok (opened.enter ⟨name, header⟩)) =
        .ok (ofDraft
          (draft.alterSection sectionName (·.enter ⟨name, header⟩))) :=
    changeSection_ofDraft isOpen wellFormed fun _ _ => rfl
  have named : (ofDraft draft).sectionName = some sectionName :=
    sectionName_ofDraft isOpen
  have placed :
      { ofDraft (draft.alterSection sectionName (·.enter ⟨name, header⟩)) with
          subsectionName := some name, header := some header } =
        ofDraft (Draft.openSubsection?.enter draft sectionName
          ⟨name, header⟩) :=
    congrArg (Cursor.mk _ · (some name) (some header)) named
  rw [openSubsection, repeats_ofDraft isOpen, ok_bind, header_ofDraft isOpen,
    entered, ok_bind, placed, Draft.openSubsection?, isOpen]
  cases heading with
  | none => rfl
  | some current =>
      simp only [Option.any_some]
      split
      · have recorded :
            (ofDraft draft).changeSection
                (fun opened =>
                  .ok (opened.recordRepeat header
                    current.header.position.row)) =
              .ok (ofDraft (draft.alterSection sectionName
                (·.recordRepeat header current.header.position.row))) :=
          changeSection_ofDraft isOpen wellFormed fun _ _ => rfl
        rw [Option.map_some, require_some, ok_bind, recorded]
        rfl
      · rfl

theorem attach_ofDraft (item : Item) :
    (ofDraft draft).attach item =
      .ok (ofDraft ((draft.attach? item).getD draft)) := by
  have attached :
      (ofDraft draft).attach item =
        .ok (ofDraft
          (draft.alterSection place.sectionName
            (·.attach place.heading item))) := by
    rw [attach, subsectionName_ofDraft isOpen]
    apply changeSection_ofDraft isOpen wellFormed
    intro opened known
    cases isHeading : place.heading with
    | none => rfl
    | some heading =>
        obtain ⟨part, found⟩ :=
          Named.exists_find?_of_mem (known heading isHeading)
        have changed :
            changeEntry .noSubsection heading.name
                (fun part => .ok { part with items := part.items ++ [item] })
                opened.subsections =
              .ok (opened.attach (some heading) item).subsections :=
          changeEntry_eq_ok found rfl .noSubsection _
        rw [Option.map_some]
        dsimp only
        rw [changed, ok_bind]
        rfl
  rw [attached, Draft.attach?, isOpen]
  rfl

end Open

theorem sectionName_ofDraft_of_none
    {draft : Draft} (isNowhere : draft.place = none) :
    (ofDraft draft).sectionName = none := by
  rw [ofDraft, isNowhere]
  rfl

/-! ## Reading a line -/

section Read

variable {line : Text} {draft : Draft} (wellFormed : draft.WellFormed)
  (row : Int)

include wellFormed

theorem read_ofDraft_of_zero (indented : Indented 0 line) :
    (ofDraft draft).read row line = .ok (ofDraft (draft.read row line)) := by
  have opened : (draft.openSection line.firstWord).WellFormed :=
    Draft.wellFormed_take wellFormed (.openSection line.firstWord)
  rw [read, if_pos indented, leadingWord_trim indented, ok_bind, Draft.read,
    ofText_of_indented indented]
  exact changeSection_ofDraft rfl opened fun _ _ => rfl

theorem read_ofDraft_of_two (indented : Indented 2 line) :
    (ofDraft draft).read row line = .ok (ofDraft (draft.read row line)) := by
  have notZero : ¬ Indented 0 line := fun zero =>
    absurd (zero.indentation_eq.symm.trans indented.indentation_eq) (by decide)
  rw [read, if_neg notZero, if_pos indented, trim_drop_indented indented,
    Draft.read, ofText_of_indented indented, ofIndentation]
  cases isPlace : draft.place with
  | none =>
      rw [sectionName_ofDraft_of_none isPlace, if_pos Option.isNone_none]
      by_cases isLabel : Label.isLabel line.trim = true
      · simp only [if_pos isLabel, Draft.openSubsection?, isPlace]
        rfl
      · simp only [if_neg isLabel, Draft.attach?, isPlace]
        rfl
  | some place =>
      rw [sectionName_ofDraft isPlace, if_neg (by simp), readSecond]
      by_cases isLabel : Label.isLabel line.trim = true
      · rw [if_pos isLabel, if_pos isLabel, leadingWord_trim indented, ok_bind]
        exact openSubsection_ofDraft isPlace wellFormed line.firstWord _
      · rw [if_neg isLabel, if_neg isLabel]
        exact attach_ofDraft isPlace wellFormed _

theorem read_ofDraft_of_four
    {spaces : Nat} (many : 4 ≤ spaces) (indented : Indented spaces line) :
    (ofDraft draft).read row line = .ok (ofDraft (draft.read row line)) := by
  obtain ⟨more, rfl⟩ := Nat.exists_eq_add_of_le' many
  have width := indented.indentation_eq
  have notZero : ¬ Indented 0 line := fun zero =>
    absurd (zero.indentation_eq.symm.trans width) (by omega)
  have notTwo : ¬ Indented 2 line := fun two =>
    absurd (two.indentation_eq.symm.trans width) (by omega)
  have seen : ofText line = entry line.trim := ofText_of_indented indented
  rw [read, if_neg notZero, if_neg notTwo, width, trim_drop_indented indented,
    Draft.read, seen]
  cases isPlace : draft.place with
  | none =>
      rw [sectionName_ofDraft_of_none isPlace, if_neg (by simp)]
      simp only [Draft.attach?, isPlace]
      rfl
  | some place =>
      rw [sectionName_ofDraft isPlace, if_pos ⟨many, indented, rfl⟩]
      exact attach_ofDraft isPlace wellFormed _

omit wellFormed in
theorem read_of_ignored
    {cursor : Cursor} (notZero : ¬ Indented 0 line) (notTwo : ¬ Indented 2 line)
    (notMore : ∀ spaces : Nat, 4 ≤ spaces → ¬ Indented spaces line) :
    cursor.read row line = .ok cursor := by
  rw [read, if_neg notZero, if_neg notTwo,
    if_neg fun all => notMore _ all.1 all.2.1]
  rfl

/--
No line makes the cursor of a well-formed draft fail, and it
is read as by the draft.
-/
theorem read_ofDraft (line : Text) :
    (ofDraft draft).read row line = .ok (ofDraft (draft.read row line)) := by
  by_cases zero : Indented 0 line
  · exact read_ofDraft_of_zero wellFormed row zero
  by_cases two : Indented 2 line
  · exact read_ofDraft_of_two wellFormed row two
  by_cases more : ∃ spaces : Nat, 4 ≤ spaces ∧ Indented spaces line
  · obtain ⟨spaces, many, indented⟩ := more
    exact read_ofDraft_of_four wellFormed row many indented
  · have notMore : ∀ spaces : Nat, 4 ≤ spaces → ¬ Indented spaces line :=
      fun spaces many indented => more ⟨spaces, many, indented⟩
    have unchanged : draft.read row line = draft := by
      rw [Draft.read, ofText_eq_ignored_of_shape zero two notMore]
    rw [read_of_ignored row zero two notMore, unchanged]

end Read

/-! ## Reading all lines -/

theorem foldlM_read (lines : List Text) :
    (lines.zipIdx 1).foldlM
        (fun cursor (line, row) => cursor.read row line) start =
      .ok (ofDraft (Layout.draft lines)) := by
  induction lines using List.reverseRecOn with
  | nil => rfl
  | append_singleton lines line ih =>
      -- The lines above have made a well-formed draft, whose
      -- cursor reads the last line.
      have lastRead :=
        read_ofDraft (wellFormed_draft lines) (lines.length + 1 : Nat) line
      rw [Layout.read_draft] at lastRead
      rw [List.zipIdx_append, List.foldlM_append, ih, ok_bind,
        List.zipIdx_singleton, List.foldlM_cons, Nat.add_comm 1]
      dsimp only
      rw [lastRead]
      rfl

end Cursor

/-- Reads a text with guarded operations. -/
def parse (file text : Text) : Except Breach Outline := do
  let cursor ←
    text.numberedLines.foldlM (fun cursor (line, row) => cursor.read row line)
    Cursor.start
  return ⟨cursor.sections,
    text.numberedLines.flatMap fun (line, row) =>
    Reference.onLine file row line⟩

/--
No text makes a guarded operation fail, and the outline is that of the text.
-/
theorem parse_eq_ok (file text : Text) :
    parse file text = .ok (Outline.parse file text) := by
  have readAll :
      text.numberedLines.foldlM (fun cursor (line, row) => cursor.read row line)
          Cursor.start =
        .ok (Cursor.ofDraft (Layout.draft text.lines)) :=
    Cursor.foldlM_read text.lines
  rw [parse, readAll, ok_bind, Outline.parse, Text.numberedLines,
    Layout.readAll_eq_draft]
  rfl

end OutlineLint.Guarded
