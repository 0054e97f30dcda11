import OutlineLint.CommandLine.Usage

/-!
# Arguments

Every word of a command line is an operand, a flag, or a word that looks like a
flag and is none.  A flag may be abbreviated as long as no other begins alike,
and its value may follow a sign of equality.  A word that begins with a hyphen
is still an operand if it is a lone hyphen, a negative number, or holds a space.
The word `--` divides: all words after it are operands.
-/

namespace OutlineLint

/-- What a word of a command line is. -/
inductive Argument where
  | operand (word : Bytes)
  /-- The first `--`. -/
  | divider
  /-- A flag, with the value after its sign of equality. -/
  | flag (flag : Flag) (value : Option Bytes)
  /--
  The short flag `-h` with further bytes in the same word, after `=` or without
  it.
  -/
  | shortHelp (tail : Bytes)
  | unknown (word : Bytes)
  deriving DecidableEq, Repr

namespace Argument

def dividerWord : Bytes :=
  [Ascii.hyphen, Ascii.hyphen]

/-- Digits, or digits around a point with at least one after it. -/
def isUnsignedNumber (text : Text) : Bool :=
  match text.dropWhile Text.isDecimalDigit with
  | [] => !text.isEmpty
  | '.' :: fraction => !fraction.isEmpty && fraction.all Text.isDecimalDigit
  | _ => false

def withoutFinalLineFeed (text : Text) : Text :=
  if text.getLast? = some '\n' then text.dropLast else text

/-- A negative number; a line feed may follow it. -/
def isNegativeNumber (word : Bytes) : Bool :=
  match Utf8.decode word with
  | .ok ('-' :: digits) => isUnsignedNumber (withoutFinalLineFeed digits)
  | _ => false

/-- The word begins with a hyphen and fits no flag. -/
def ofUnmatched (word : Bytes) : Argument :=
  if isNegativeNumber word || word.contains Ascii.space then
    operand word
  else
    unknown word

/-- The part of a word before its first sign of equality. -/
def nameOf (word : Bytes) : Bytes :=
  word.takeWhile (· != Ascii.equalsSign)

/-- The part of a word after its first sign of equality. -/
def valueOf? (word : Bytes) : Option Bytes :=
  (word.dropWhile (· != Ascii.equalsSign)).tail?

def ofLongWord (word : Bytes) : Except UsageError Argument :=
  match Flag.all.filter ((nameOf word).isPrefixOf ·.word) with
  | [] => .ok (ofUnmatched word)
  | [found] => .ok (.flag found (valueOf? word))
  | candidates => .error (.ambiguous word candidates)

def ofWord (word : Bytes) : Except UsageError Argument :=
  match word with
  | Ascii.hyphen :: Ascii.hyphen :: _ => ofLongWord word
  | [Ascii.hyphen, Ascii.letterH] => .ok (.flag .help none)
  | Ascii.hyphen :: Ascii.letterH :: Ascii.equalsSign :: tail =>
      .ok (.shortHelp tail)
  | Ascii.hyphen :: Ascii.letterH :: tail => .ok (.shortHelp tail)
  | Ascii.hyphen :: _ :: _ => .ok (ofUnmatched word)
  | _ => .ok (.operand word)

/-- Reads the words of a command line; an ambiguous word is an error. -/
def ofWords : List Bytes → Except UsageError (List Argument)
  | [] => .ok []
  | word :: rest =>
      if word = dividerWord then
        .ok (.divider :: rest.map .operand)
      else
        match ofWord word with
        | .error error => .error error
        | .ok argument => (ofWords rest).map (argument :: ·)

end Argument

end OutlineLint
