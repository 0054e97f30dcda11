import OutlineLint.Text.CharacterClasses
import OutlineLint.Text.Utf8

/-!
# Byte strings and their letters

The words of a command line and the names in a file tree are byte strings.  Most
of them are the UTF-8 of a text, but they may hold any bytes.  A byte string is
read letter by letter: where the UTF-8 of a character begins, the letter is that
character, and a byte with which no character begins is a stray byte.

Error messages quote the paths and words they name.  Single quotes are used
unless there are single quotes and no double quotes in what is quoted.  The
quote in use and the backslash are escaped by a backslash, and characters that
are not printable are written by name or by their code point.  A stray byte is
shown as a code point from U+DC80 on, which is none of a character.

Letters that are written as UTF-8 have to be characters.  The first stray bytes
among them keep them from being written.
-/

namespace OutlineLint

/-! ## Bytes with a meaning of their own -/

namespace Ascii

@[match_pattern] abbrev null : UInt8 := 0x00

@[match_pattern] abbrev space : UInt8 := 0x20

@[match_pattern] abbrev doubleQuote : UInt8 := 0x22

@[match_pattern] abbrev singleQuote : UInt8 := 0x27

@[match_pattern] abbrev hyphen : UInt8 := 0x2D

@[match_pattern] abbrev point : UInt8 := 0x2E

@[match_pattern] abbrev slash : UInt8 := 0x2F

@[match_pattern] abbrev equalsSign : UInt8 := 0x3D

@[match_pattern] abbrev letterH : UInt8 := 0x68

end Ascii

/-! ## Letters -/

/-- A character, or a byte that belongs to none. -/
inductive Letter where
  | character (character : Char)
  | stray (byte : UInt8)
  deriving DecidableEq, Repr

def Letter.isCharacter : Letter → Bool
  | character _ => true
  | stray _ => false

namespace Bytes

/-- The character with whose UTF-8 the bytes begin. -/
def firstCharacter? (bytes : Bytes) : Option Char :=
  [1, 2, 3, 4].findSome? fun length =>
    match Utf8.decode (bytes.take length) with
    | .ok [character] => some character
    | _ => none

/-- The letters of the bytes behind the first `skipped` of them. -/
def lettersAfter : Nat → Bytes → List Letter
  | _, [] => []
  | skipped + 1, _ :: rest => lettersAfter skipped rest
  | 0, byte :: rest =>
      match firstCharacter? (byte :: rest) with
      | some character =>
          .character character
            :: lettersAfter (String.utf8EncodeChar character).length.pred rest
      | none => .stray byte :: lettersAfter 0 rest

def letters (bytes : Bytes) : List Letter :=
  lettersAfter 0 bytes

end Bytes

/-! ## Letters shown and quoted -/

namespace Text

/-- A character that is not printable, by its code point. -/
def escapedCode (code : Nat) : Text :=
  if code < 0x100 then "\\x".toList ++ hexadecimal 2 code
  else if code < 0x10000 then "\\u".toList ++ hexadecimal 4 code
  else "\\U".toList ++ hexadecimal 8 code

/-- A character inside the given quotes. -/
def quotedCharacter (quote character : Char) : Text :=
  if character = quote || character = '\\' then ['\\', character]
  else if character = '\t' then ['\\', 't']
  else if character = '\n' then ['\\', 'n']
  else if character = '\r' then ['\\', 'r']
  else if isPrintable character then [character]
  else escapedCode character.toNat

end Text

namespace Letter

def shown : Letter → Text
  | character value => [value]
  | stray byte => Text.escapedCode (0xDC00 + byte.toNat)

/-- A letter inside the given quotes. -/
def quoted (quote : Char) : Letter → Text
  | character value => Text.quotedCharacter quote value
  | stray byte => shown (stray byte)

end Letter

namespace Bytes

def shown (bytes : Bytes) : Text :=
  bytes.letters.flatMap Letter.shown

def quoteFor (bytes : Bytes) : Char :=
  if bytes.contains Ascii.singleQuote && !bytes.contains Ascii.doubleQuote then
    '"'
  else
    '\''

def quoted (bytes : Bytes) : Text :=
  let quote := bytes.quoteFor
  quote :: bytes.letters.flatMap (Letter.quoted quote) ++ [quote]

end Bytes

/-! ## Letters that cannot be written -/

/--
The first letters that are no characters: where they begin, how many of them
stand together, and the first of them.
-/
structure EncodingFault where
  start : Nat
  count : Nat
  first : UInt8
  deriving DecidableEq, Repr

/-- What keeps letters from being written as UTF-8. -/
def encodingFault? (letters : List Letter) : Option EncodingFault :=
  match letters.dropWhile Letter.isCharacter with
  | .stray byte :: rest =>
      some ⟨(letters.takeWhile Letter.isCharacter).length,
        (rest.takeWhile (!·.isCharacter)).length + 1, byte⟩
  | _ => none

/--
The message of a fault.  A single letter is shown, of several the positions.
-/
def EncodingFault.message (fault : EncodingFault) : Text :=
  let culprit :=
    if fault.count = 1 then
      " character '".toList ++ Letter.shown (.stray fault.first)
        ++ "' in position ".toList ++ Text.ofNat fault.start
    else
      " characters in position ".toList ++ Text.ofNat fault.start
        ++ '-' :: Text.ofNat (fault.start + fault.count - 1)
  "'utf-8' codec can't encode".toList ++ culprit
    ++ ": surrogates not allowed".toList

end OutlineLint
