import OutlineLint.Json

/-!
# The grammar of JSON

The texts that stand for a JSON value, after RFC 8259: white space may lie
around every mark, and every character of a string may be escaped, those beyond
`FFFF` as a pair of surrogates.  Numbers are integers, so they have neither a
fraction nor an exponent, and a string has no lone surrogates, for it is a text.

The grammar says more than the writer of documents makes use of.
-/

namespace OutlineLint.Json

/-! ## Marks and white space -/

/-- White space between the marks of a document. -/
def isSpace (character : Char) : Bool :=
  character = ' ' || character = '\t' || character = '\n' || character = '\r'

def Spaces (text : Text) : Prop :=
  ∀ character ∈ text, isSpace character = true

/-! ## Numbers -/

/-- Decimal digits without a zero before others. -/
structure Digits (digits : Text) : Prop where
  nonempty : digits ≠ []
  decimal : ∀ character ∈ digits, character.isDigit = true
  shortest : digits.head? = some '0' → digits = ['0']

/-- The number that digits stand for. -/
def valueOf (digits : Text) : Nat :=
  Nat.ofDigitChars 10 digits 0

inductive Numeral : Int → Text → Prop where
  | natural {digits : Text} (isNatural : Digits digits) :
      Numeral (valueOf digits) digits
  | negated {digits : Text} (isNatural : Digits digits) :
      Numeral (-valueOf digits) ('-' :: digits)

/-! ## Strings -/

/-- The character that a letter behind a backslash stands for. -/
def shortEscape? (letter : Char) : Option Char :=
  if letter = '"' || letter = '\\' || letter = '/' then some letter
  else if letter = 'b' then some '\x08'
  else if letter = 'f' then some '\x0c'
  else if letter = 'n' then some '\n'
  else if letter = 'r' then some '\r'
  else if letter = 't' then some '\t'
  else none

def hexValue? (digit : Char) : Option Nat :=
  if '0' ≤ digit && digit ≤ '9' then some (digit.toNat - '0'.toNat)
  else if 'a' ≤ digit && digit ≤ 'f' then some (10 + digit.toNat - 'a'.toNat)
  else if 'A' ≤ digit && digit ≤ 'F' then some (10 + digit.toNat - 'A'.toNat)
  else none

/-- The number that hexadecimal digits stand for, behind those of `value`. -/
def hexNumber? (value : Nat) : Text → Option Nat
  | [] => some value
  | digit :: rest =>
      match hexValue? digit with
      | none => none
      | some last => hexNumber? (16 * value + last) rest

/-- Four hexadecimal digits with the number that they stand for. -/
structure CodeUnit (unit : Nat) (digits : Text) : Prop where
  four : digits.length = 4
  value : hexNumber? 0 digits = some unit

/-- A character that stands for itself between the quotes of a string. -/
def isPlain (character : Char) : Bool :=
  0x20 ≤ character.toNat && character != '"' && character != '\\'

def isHighSurrogate (unit : Nat) : Bool :=
  0xD800 ≤ unit && unit < 0xDC00

def isLowSurrogate (unit : Nat) : Bool :=
  0xDC00 ≤ unit && unit < 0xE000

/-- The code point of a pair of surrogates. -/
def ofSurrogates (high low : Nat) : Nat :=
  0x10000 + (high - 0xD800) * 0x400 + (low - 0xDC00)

/-- The forms of a character between the quotes of a string. -/
inductive CharacterForm : Char → Text → Prop where
  | plain {character : Char} (isPlain : isPlain character = true) :
      CharacterForm character [character]
  | short {letter character : Char}
      (meaning : shortEscape? letter = some character) :
      CharacterForm character ['\\', letter]
  | unit {unit : Nat} {digits : Text} (isUnit : CodeUnit unit digits)
      (notHigh : isHighSurrogate unit = false)
      (notLow : isLowSurrogate unit = false) :
      CharacterForm (Char.ofNat unit) ('\\' :: 'u' :: digits)
  | pair {high low : Nat} {highDigits lowDigits : Text}
      (highUnit : CodeUnit high highDigits)
      (isHigh : isHighSurrogate high = true)
      (lowUnit : CodeUnit low lowDigits) (isLow : isLowSurrogate low = true) :
      CharacterForm (Char.ofNat (ofSurrogates high low))
        ('\\' :: 'u' :: highDigits ++ '\\' :: 'u' :: lowDigits)

inductive CharacterForms : Text → Text → Prop where
  | nil : CharacterForms [] []
  | cons {character : Char} {text form forms : Text}
      (isForm : CharacterForm character form)
      (areForms : CharacterForms text forms) :
      CharacterForms (character :: text) (form ++ forms)

/-- The forms of a text as a string. -/
inductive StringForm : Text → Text → Prop where
  | quoted {text forms : Text} (areForms : CharacterForms text forms) :
      StringForm text ('"' :: forms ++ ['"'])

/-! ## Lists and objects -/

section Blocks

variable {α : Type}

/-- Forms of items, with white space around each and commas between them. -/
inductive ItemForms (form : α → Text → Prop) : List α → Text → Prop where
  | last {item : α} {before text after : Text}
      (spaceBefore : Spaces before) (isForm : form item text)
      (spaceAfter : Spaces after) :
      ItemForms form [item] (before ++ text ++ after)
  | more {item : α} {items : List α} {before text after rest : Text}
      (spaceBefore : Spaces before) (isForm : form item text)
      (spaceAfter : Spaces after) (areForms : ItemForms form items rest) :
      ItemForms form (item :: items) (before ++ text ++ after ++ ',' :: rest)

/-- The forms of a list of items between brackets. -/
inductive BlockForm (opener closer : Char) (form : α → Text → Prop) :
    List α → Text → Prop where
  | empty {between : Text} (space : Spaces between) :
      BlockForm opener closer form [] (opener :: between ++ [closer])
  | full {items : List α} {forms : Text}
      (areForms : ItemForms form items forms) :
      BlockForm opener closer form items (opener :: forms ++ [closer])

end Blocks

/--
The forms of a member of an object: its key, a colon, and a form of its value.
-/
inductive MemberForm (form : Json → Text → Prop) :
    Text × Json → Text → Prop where
  | named {key keyForm before after text : Text} {value : Json}
      (isKey : StringForm key keyForm) (spaceBefore : Spaces before)
      (spaceAfter : Spaces after) (isForm : form value text) :
      MemberForm form (key, value) (keyForm ++ before ++ ':' :: after ++ text)

/-! ## Values -/

/-- The forms of a value. -/
inductive ValueForm : Json → Text → Prop where
  | null : ValueForm .null "null".toList
  | yes : ValueForm (.boolean true) "true".toList
  | no : ValueForm (.boolean false) "false".toList
  | integer {value : Int} {text : Text} (isNumeral : Numeral value text) :
      ValueForm (.integer value) text
  | text {content text : Text} (isString : StringForm content text) :
      ValueForm (.text content) text
  | list {elements : List Json} {text : Text}
      (isBlock : BlockForm '[' ']' ValueForm elements text) :
      ValueForm (.list elements) text
  | object {members : List (Text × Json)} {text : Text}
      (isBlock : BlockForm '{' '}' (MemberForm ValueForm) members text) :
      ValueForm (.object members) text

/-- The text is a JSON document, and this is the value that it stands for. -/
inductive Document : Json → Text → Prop where
  | padded {value : Json} {before text after : Text}
      (spaceBefore : Spaces before) (isForm : ValueForm value text)
      (spaceAfter : Spaces after) :
      Document value (before ++ text ++ after)

end OutlineLint.Json
