import OutlineLint.Text.Basic

/-!
# JSON documents

The values of JSON with integers for numbers, and the layout in which they are
written: every member of a list or of an object stands on a line of its own,
indented by two spaces for each level, and an empty list or object is a pair of
brackets.  Only quotes, backslashes and control characters are escaped.
-/

namespace OutlineLint

/-- A JSON value; its numbers are integers. -/
inductive Json where
  | null
  | boolean (value : Bool)
  | integer (value : Int)
  | text (value : Text)
  | list (elements : List Json)
  | object (members : List (Text × Json))

namespace Json

/-- A character inside the quotes of a string. -/
def escaped (character : Char) : Text :=
  if character = '"' then ['\\', '"']
  else if character = '\\' then ['\\', '\\']
  else if character = '\n' then ['\\', 'n']
  else if character = '\r' then ['\\', 'r']
  else if character = '\t' then ['\\', 't']
  else if character = '\x08' then ['\\', 'b']
  else if character = '\x0c' then ['\\', 'f']
  else if character.toNat < 0x20 then
    "\\u".toList ++ Text.hexadecimal 4 character.toNat
  else [character]

def writeText (text : Text) : Text :=
  '"' :: text.flatMap escaped ++ ['"']

/-- The end of a line and the indentation of the next. -/
def newLine (level : Nat) : Text :=
  '\n' :: List.replicate (2 * level) ' '

/-- The parts between a pair of brackets, one on each line. -/
def writeBlock
    (level : Nat) (opener closer : Char) (parts : List Text) : Text :=
  if parts.isEmpty then
    [opener, closer]
  else
    opener :: newLine (level + 1)
      ++ List.intercalate (',' :: newLine (level + 1)) parts
      ++ newLine level ++ [closer]

/-- A block up to the part that comes after the given ones. -/
def beginBlock (level : Nat) (opener : Char) (parts : List Text) : Text :=
  opener :: newLine (level + 1)
    ++ parts.flatMap (· ++ ',' :: newLine (level + 1))

mutual

/-- The document of a value that stands at the given level. -/
def write (level : Nat) : Json → Text
  | .null => "null".toList
  | .boolean value => if value then "true".toList else "false".toList
  | .integer value => Text.ofInt value
  | .text value => writeText value
  | .list elements =>
      writeBlock level '[' ']' (writeElements (level + 1) elements)
  | .object members =>
      writeBlock level '{' '}' (writeMembers (level + 1) members)

def writeElements (level : Nat) : List Json → List Text
  | [] => []
  | element :: rest => write level element :: writeElements level rest

def writeMembers (level : Nat) : List (Text × Json) → List Text
  | [] => []
  | (key, value) :: rest =>
      (writeText key ++ ": ".toList ++ write level value) ::
        writeMembers level rest

end

end Json

end OutlineLint
