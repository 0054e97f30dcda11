import OutlineLint.Duplicate
import OutlineLint.Outline.Parse
import OutlineLint.Resolution

/-!
# Checking a text

A text whose brackets do not balance has that one finding.  Any other text is
read as an outline and has its duplicate entries and its unresolved references
for findings, in this order.
-/

namespace OutlineLint

/--
The findings about a text, and what is noted in the log about its outline.
-/
structure Examination where
  findings : List Finding
  note : Option Text
  deriving DecidableEq, Repr

namespace Check

/-- The counts of an outline, as the log notes them. -/
def outlineNote (file : Text) (outline : Outline) : Text :=
  file ++ ": ".toList
    ++ Text.ofNat outline.sections.length ++ " sections, ".toList
    ++ Text.ofNat outline.references.length ++ " bracket tokens".toList

def examine (file text : Text) : Examination :=
  match Balance.finding? file text with
  | some finding => ⟨[finding], none⟩
  | none =>
      let outline := Outline.parse file text
      ⟨Duplicate.findings file outline ++ Resolution.findings outline,
        some (outlineNote file outline)⟩

def findings (file text : Text) : List Finding :=
  (examine file text).findings

end Check

end OutlineLint
