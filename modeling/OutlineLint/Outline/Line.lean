import OutlineLint.Text.Blank

/-!
# Lines of an outline

What a line contributes to an outline is decided by the number of spaces before
its first character that is not a blank.  Without any it opens a section; after
two it opens a subsection, if its content is a label, or is an entry; after four
or more it is an entry.  Every other line is ignored.

A label is one word, or two words with one blank between them, of letters,
digits, underscores, hyphens and apostrophes.  A short item of two words is a
label too, and references to subsections rely on that.
-/

namespace OutlineLint

/-! ## Labels -/

namespace Label

def isWordCharacter (character : Char) : Bool :=
  character.isAlphanum || character = '_' || character = '-' || character = '\''

def isWord (text : Text) : Bool :=
  !text.isEmpty && text.all isWordCharacter

/-- One word, or two words with one blank between them. -/
def isOneOrTwoWords (content : Text) : Bool :=
  match content.dropWhile isWordCharacter with
  | [] => isWord content
  | separator :: second =>
      isWord (content.takeWhile isWordCharacter) && Text.isBlank separator &&
        isWord second

/--
The content is a label.  Lists, alternatives, references and long phrases are
turned away before their words are looked at.
-/
def isLabel (content : Text) : Bool :=
  !content.contains ',' && !content.contains '|' && content.head? != some '[' &&
    (content.splitOn ' ').length ≤ 4 && isOneOrTwoWords content

end Label

/-! ## Lines -/

/-- What one line contributes to an outline. -/
inductive OutlineLine where
  | sectionHeader (name : Text)
  /--
  The line opens the subsection of this name; `content` is the trimmed line.
  -/
  | subsectionHeader (name : Text) (content : Text)
  | entry (content : Text)
  | ignored
  deriving DecidableEq, Repr

namespace OutlineLine

def indentation (line : Text) : Nat :=
  (line.takeWhile (· = ' ')).length

/-- The column after the spaces that a line begins with. -/
def contentColumn (line : Text) : Int :=
  indentation line + 1

/-- Reads a line, given without its ending. -/
def ofText (line : Text) : OutlineLine :=
  match line.dropWhile (· = ' ') with
  | [] => ignored
  | first :: rest =>
      if Text.isBlank first then
        ignored
      else
        let content := Text.trim (first :: rest)
        match indentation line with
        | 0 => sectionHeader (Text.firstWord line)
        | 1 => ignored
        | 2 =>
            if Label.isLabel content then
              subsectionHeader (Text.firstWord content) content
            else
              entry content
        | 3 => ignored
        | _ + 4 => entry content

end OutlineLine

end OutlineLint
