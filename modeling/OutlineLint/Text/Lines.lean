import OutlineLint.Text.Basic

/-!
# Lines and positions

A line feed ends a line.  One carriage return at the end of a line belongs to
the line ending and is dropped; elsewhere it is an ordinary character.

Rows and columns count from one.  They are integers because a position may also
be handed over by a caller, and then any row and column is shown as it is.  The
characters of a text stand in reading order, each with its row and its column;
line endings are not among them.
-/

namespace OutlineLint

/-- A place in a text: the row of a line and the column of a character. -/
structure Position where
  row : Int
  col : Int
  deriving DecidableEq, Repr

/-- The position in the named file, as `file:row:column`. -/
def Position.shownIn (position : Position) (file : Text) : Text :=
  file ++ ':' :: Text.ofInt position.row ++ ':' :: Text.ofInt position.col

namespace Text

def dropReturn (line : Text) : Text :=
  if line.getLast? = some '\r' then line.dropLast else line

/--
The lines of a text, without their endings.  A text has at least one line.
-/
def lines (text : Text) : List Text :=
  (text.splitOn '\n').map dropReturn

def numberedLines (text : Text) : List (Text × Nat) :=
  text.lines.zipIdx 1

/-- The characters of a line, each with its position. -/
def locatedIn (row : Nat) (line : Text) : List (Char × Position) :=
  (line.zipIdx 1).map fun (character, col) => (character, ⟨row, col⟩)

/-- The characters of all lines of a text, each with its position. -/
def located (text : Text) : List (Char × Position) :=
  text.numberedLines.flatMap fun (line, row) => locatedIn row line

end Text

end OutlineLint
