import OutlineLint.Text.CharacterClasses

/-!
# Blanks, trimming and words

Blanks are the characters that separate words: the Unicode white space and the
four separators U+001C to U+001F.  Trimming removes blanks at both ends, and the
first word of a text runs from its first character that is not blank up to the
next blank.
-/

namespace OutlineLint.Text

/-- The characters that separate words. -/
def blankRanges : CodeRanges :=
  [(0x9, 0xD), (0x1C, 0x20), (0x85, 0x85), (0xA0, 0xA0), (0x1680, 0x1680),
    (0x2000, 0x200A), (0x2028, 0x2029), (0x202F, 0x202F), (0x205F, 0x205F),
    (0x3000, 0x3000)]

def isBlank (character : Char) : Bool :=
  blankRanges.covers character.toNat

/-- The text from its first character that is not blank. -/
def trimLeft (text : Text) : Text :=
  text.dropWhile isBlank

/-- The text up to its last character that is not blank. -/
def trimRight (text : Text) : Text :=
  (text.reverse.dropWhile isBlank).reverse

def trim (text : Text) : Text :=
  trimRight (trimLeft text)

/-- The first word of the text; empty if all its characters are blank. -/
def firstWord (text : Text) : Text :=
  (trimLeft text).takeWhile (!isBlank ·)

@[simp]
theorem trim_nil : trim [] = [] := rfl

@[simp]
theorem firstWord_nil : firstWord [] = [] := rfl

end OutlineLint.Text
