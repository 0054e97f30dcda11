import OutlineLint.Bracket
import OutlineLint.Text.Lines

/-!
# Balance of brackets

A text is read from its first character to its last with the brackets that are
still open, the innermost first.  The first closing bracket without a partner is
the problem of the text; if there is none, it is the innermost bracket that the
text leaves open.
-/

namespace OutlineLint

/-- A bracket that has been opened, and where. -/
structure OpenBracket where
  bracket : Bracket
  position : Position
  deriving DecidableEq, Repr

/-- What keeps the brackets of a text from balancing. -/
inductive BracketProblem where
  /-- A bracket is closed while none is open. -/
  | unmatched (bracket : Bracket) (position : Position)
  /-- A bracket is closed while one of another kind is innermost. -/
  | mismatched (bracket : Bracket) (position : Position) (opened : OpenBracket)
  /-- The text ends inside a bracket. -/
  | unclosed (opened : OpenBracket)
  deriving DecidableEq, Repr

namespace Balance

/--
The first problem of the remaining characters, the
brackets `pending` being open.
-/
def scan (pending : List OpenBracket) :
    List (Char × Position) → Option BracketProblem
  | [] => pending.head?.map .unclosed
  | (character, position) :: rest =>
      match Bracket.ofOpener? character, Bracket.ofCloser? character with
      | some bracket, _ => scan (⟨bracket, position⟩ :: pending) rest
      | none, none => scan pending rest
      | none, some bracket =>
          match pending with
          | [] => some (.unmatched bracket position)
          | opened :: outer =>
              if opened.bracket = bracket then
                scan outer rest
              else
                some (.mismatched bracket position opened)

def problem? (text : Text) : Option BracketProblem :=
  scan [] text.located

end Balance

end OutlineLint
