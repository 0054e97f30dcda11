/-!
# Brackets

Three kinds of brackets come in pairs of an opening and a closing character.
-/

namespace OutlineLint

inductive Bracket where
  | round
  | curly
  | square
  deriving DecidableEq, Repr

namespace Bracket

def opener : Bracket → Char
  | round => '('
  | curly => '{'
  | square => '['

def closer : Bracket → Char
  | round => ')'
  | curly => '}'
  | square => ']'

/-- The bracket that a character opens. -/
def ofOpener? (character : Char) : Option Bracket :=
  if character = '(' then some round
  else if character = '{' then some curly
  else if character = '[' then some square
  else none

/-- The bracket that a character closes. -/
def ofCloser? (character : Char) : Option Bracket :=
  if character = ')' then some round
  else if character = '}' then some curly
  else if character = ']' then some square
  else none

theorem ofOpener?_eq_some_iff (character : Char) (bracket : Bracket) :
    ofOpener? character = some bracket ↔ character = bracket.opener := by
  constructor
  · intro opens
    unfold ofOpener? at opens
    split at opens
    · cases opens; assumption
    · split at opens
      · cases opens; assumption
      · split at opens
        · cases opens; assumption
        · cases opens
  · rintro rfl
    cases bracket <;> decide

theorem ofCloser?_eq_some_iff (character : Char) (bracket : Bracket) :
    ofCloser? character = some bracket ↔ character = bracket.closer := by
  constructor
  · intro closes
    unfold ofCloser? at closes
    split at closes
    · cases closes; assumption
    · split at closes
      · cases closes; assumption
      · split at closes
        · cases closes; assumption
        · cases closes
  · rintro rfl
    cases bracket <;> decide

@[simp]
theorem ofOpener?_opener (bracket : Bracket) :
    ofOpener? bracket.opener = some bracket := by
  cases bracket <;> decide

@[simp]
theorem ofCloser?_closer (bracket : Bracket) :
    ofCloser? bracket.closer = some bracket := by
  cases bracket <;> decide

@[simp]
theorem ofOpener?_closer (bracket : Bracket) :
    ofOpener? bracket.closer = none := by
  cases bracket <;> decide

@[simp]
theorem ofCloser?_opener (bracket : Bracket) :
    ofCloser? bracket.opener = none := by
  cases bracket <;> decide

end Bracket

end OutlineLint
