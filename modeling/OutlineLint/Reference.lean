import OutlineLint.Text.Lines

/-!
# Bracketed references

A reference is a run of characters between `[` and the next `]`.  References are
taken from left to right and do not overlap: one begins at the first `[` after
the previous reference, and a `[` inside it is part of its text.  A bracket pair
with nothing between is no reference, and neither is a `[` that is never closed.
-/

namespace OutlineLint

/-- The text between a pair of square brackets, and the place of the `[`. -/
structure Reference where
  text : Text
  position : Position
  file : Text
  deriving DecidableEq, Repr

namespace Reference

/--
A `[` that waits for its `]`: its column, and the characters since, last first.
-/
structure Opening where
  col : Int
  reversed : Text
  deriving DecidableEq, Repr

/--
The spans between brackets in the rest of a line that goes on at column `col`,
each with the column of its `[`.
-/
def spans (opening : Option Opening) (col : Int) : Text → List (Int × Text)
  | [] => []
  | character :: rest =>
      match opening with
      | none =>
          spans (if character = '[' then some ⟨col, []⟩ else none)
            (col + 1) rest
      | some ⟨start, reversed⟩ =>
          if character = ']' then
            if reversed.isEmpty then
              spans none (col + 1) rest
            else
              (start, reversed.reverse) :: spans none (col + 1) rest
          else
            spans (some ⟨start, character :: reversed⟩) (col + 1) rest

/-- The references on a line, from left to right. -/
def onLine (file : Text) (row : Int) (line : Text) : List Reference :=
  (spans none 1 line).map fun (col, text) => ⟨text, ⟨row, col⟩, file⟩

end Reference

end OutlineLint
