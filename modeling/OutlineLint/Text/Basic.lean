/-!
# Text

A text is the list of its characters, so that columns and lengths count code
points and every scan is a recursion on the list.  `String` is used only where a
text enters or leaves a program.

Numbers are shown in decimal, and code points in escapes by a fixed number of
lower-case hexadecimal digits.
-/

namespace OutlineLint

abbrev Text := List Char

namespace Text

def ofNat (value : Nat) : Text :=
  Nat.toDigits 10 value

/-- The decimal digits of an integer, after a minus sign if it is negative. -/
def ofInt : Int → Text
  | .ofNat value => ofNat value
  | .negSucc value => '-' :: ofNat (value + 1)

/--
The last `width` hexadecimal digits of a number, the most significant first.
-/
def hexadecimal : Nat → Nat → Text
  | 0, _ => []
  | width + 1, value =>
      hexadecimal width (value / 16) ++ [Nat.digitChar (value % 16)]

@[simp]
theorem length_hexadecimal (width value : Nat) :
    (hexadecimal width value).length = width := by
  induction width generalizing value with
  | zero => rfl
  | succ width ih => simp [hexadecimal, ih]

/--
The part occurs somewhere in the text, as a run of neighbouring characters.
-/
def holds (part : Text) : Text → Bool
  | [] => part.isEmpty
  | character :: rest => part.isPrefixOf (character :: rest) || holds part rest

theorem holds_iff (part text : Text) :
    holds part text = true ↔ part <:+: text := by
  induction text with
  | nil => simp [holds]
  | cons character rest ih =>
      rw [holds, Bool.or_eq_true, ih, List.isPrefixOf_iff_prefix,
        List.infix_cons_iff]

end Text

end OutlineLint
