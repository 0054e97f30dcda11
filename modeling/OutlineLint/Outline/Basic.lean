import OutlineLint.Outline.Named
import OutlineLint.Reference
import OutlineLint.Text.Blank
import OutlineLint.Text.Lowercase

/-!
# Outlines

An outline is a list of sections, each with items of its own and with
subsections that hold further items.  Sections and subsections stand in the
order in which they were first opened.  Beside the sections an outline keeps the
references found anywhere in the text.
-/

namespace OutlineLint

/-- The trimmed text of a line, with the place where it begins. -/
structure Item where
  text : Text
  position : Position
  deriving DecidableEq, Repr

/--
The form in which items are compared: without outer blanks, in lower case.
-/
def Item.normalized (item : Item) : Text :=
  item.text.trim.lower

/-- A named part of a section; `position` is that of its first header. -/
structure Subsection where
  name : Text
  position : Position
  items : List Item
  deriving DecidableEq, Repr

instance : Named Subsection where
  name := Subsection.name

/--
A header that repeats the one before it, and the row of the header it repeats.
-/
structure RepeatedHeader where
  header : Item
  firstRow : Int
  deriving DecidableEq, Repr

/-- A line that opens a section, and its row. -/
structure HeaderLine where
  row : Int
  line : Text
  deriving DecidableEq, Repr

/-- A part of an outline that lines without indentation open. -/
structure Section where
  name : Text
  subsections : List Subsection
  items : List Item
  repeatedHeaders : List RepeatedHeader
  headerLines : List HeaderLine
  deriving DecidableEq, Repr

instance : Named Section where
  name := Section.name

def Section.empty (name : Text) : Section :=
  ⟨name, [], [], [], []⟩

def Subsection.empty (name : Text) (position : Position) : Subsection :=
  ⟨name, position, []⟩

/-- The sections of a text and the references in it. -/
structure Outline where
  sections : List Section
  references : List Reference
  deriving DecidableEq, Repr

/-- The first section whose name is the given one in some spelling of case. -/
def Outline.sectionNamed? (outline : Outline) (name : Text) : Option Section :=
  outline.sections.find? (·.name.lower = name.lower)

end OutlineLint
