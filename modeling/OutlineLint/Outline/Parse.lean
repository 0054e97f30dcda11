import OutlineLint.Outline.Basic
import OutlineLint.Outline.Line
import OutlineLint.Text.Lines

/-!
# Reading an outline

The lines of a text are read in order into a draft.  A draft holds the sections
opened so far and the place where the next line belongs: a section and, perhaps,
one of its subsections with the header that entered it.  Opening a section is
always possible.  Opening a subsection and attaching an item need an open
section and give `none` without one.

A header that repeats the header of the current subsection opens nothing.  It is
recorded as a repetition of that header, and the place stays as it was, so that
a run of equal headers is recorded against its first.

Indented lines before the first section belong nowhere and leave the draft as it
is.  References are collected from every line, whatever it contributes to the
sections.
-/

namespace OutlineLint

/-- The subsection that is open, and the header that entered it. -/
structure Heading where
  name : Text
  header : Item
  deriving DecidableEq, Repr

/-- Where the next line belongs. -/
structure Place where
  sectionName : Text
  heading : Option Heading
  deriving DecidableEq, Repr

/-- The sections opened so far and the place of the next line. -/
structure Draft where
  sections : List Section
  place : Option Place
  deriving DecidableEq, Repr

/--
The header names the open subsection and says the same as
the header that entered it.
-/
def Heading.isRepeatedBy
    (heading : Heading) (name : Text) (header : Item) : Bool :=
  heading.name = name && heading.header.normalized = header.normalized

/--
The section with the item attached, inside the subsection of the
heading if there is one.
-/
def Section.attach
    (opened : Section) (heading : Option Heading) (item : Item) : Section :=
  match heading with
  | none => { opened with items := opened.items ++ [item] }
  | some ⟨name, header⟩ =>
      { opened with
        subsections :=
          Named.alter name (Subsection.empty name header.position)
            (fun part => { part with items := part.items ++ [item] })
            opened.subsections }

/-- The section with a subsection of the heading's name. -/
def Section.enter (opened : Section) (heading : Heading) : Section :=
  { opened with
    subsections :=
      Named.alter heading.name
        (Subsection.empty heading.name heading.header.position) id
        opened.subsections }

def Section.recordRepeat
    (opened : Section) (header : Item) (firstRow : Int) : Section :=
  { opened with
    repeatedHeaders := opened.repeatedHeaders ++ [⟨header, firstRow⟩] }

def Section.recordHeaderLine
    (opened : Section) (row : Int) (line : Text) : Section :=
  { opened with headerLines := opened.headerLines ++ [⟨row, line⟩] }

namespace Draft

def empty : Draft :=
  ⟨[], none⟩

/-- Changes the section of a name, which is made if there is none. -/
def alterSection
    (draft : Draft) (name : Text) (change : Section → Section) : Draft :=
  { draft with
    sections := Named.alter name (Section.empty name) change draft.sections }

/-- Goes on in the section of a name, outside its subsections. -/
def openSection (draft : Draft) (name : Text) : Draft :=
  { draft.alterSection name id with place := some ⟨name, none⟩ }

/--
Goes on in a subsection of the open section, or records a repeated header.
-/
def openSubsection?
    (draft : Draft) (name : Text) (header : Item) : Option Draft :=
  match draft.place with
  | none => none
  | some ⟨sectionName, none⟩ => some (enter sectionName ⟨name, header⟩)
  | some ⟨sectionName, some current⟩ =>
      if current.isRepeatedBy name header then
        some (draft.alterSection sectionName
          (·.recordRepeat header current.header.position.row))
      else
        some (enter sectionName ⟨name, header⟩)
where
  /-- Makes the heading's subsection the place of the next line. -/
  enter (sectionName : Text) (heading : Heading) : Draft :=
    { draft.alterSection sectionName (·.enter heading) with
      place := some ⟨sectionName, some heading⟩ }

/-- Puts an item where the next line belongs. -/
def attach? (draft : Draft) (item : Item) : Option Draft :=
  match draft.place with
  | none => none
  | some ⟨sectionName, heading⟩ =>
      some (draft.alterSection sectionName (·.attach heading item))

end Draft

/-! ## Reading lines -/

/-- The item that a line with the given trimmed content makes. -/
def Item.ofLine (row : Int) (line content : Text) : Item :=
  ⟨content, ⟨row, OutlineLine.contentColumn line⟩⟩

def Draft.read (draft : Draft) (row : Int) (line : Text) : Draft :=
  match OutlineLine.ofText line with
  | .sectionHeader name =>
      (draft.openSection name).alterSection name (·.recordHeaderLine row line)
  | .subsectionHeader name content =>
      (draft.openSubsection? name (Item.ofLine row line content)).getD draft
  | .entry content => (draft.attach? (Item.ofLine row line content)).getD draft
  | .ignored => draft

def Draft.readAll (draft : Draft) (numbered : List (Text × Nat)) : Draft :=
  numbered.foldl (fun draft (line, row) => draft.read row line) draft

/-- The outline of the text of a file. -/
def Outline.parse (file text : Text) : Outline where
  sections := (Draft.empty.readAll text.numberedLines).sections
  references :=
    text.numberedLines.flatMap fun (line, row) => Reference.onLine file row line

end OutlineLint
