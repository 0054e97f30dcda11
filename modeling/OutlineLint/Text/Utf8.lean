import OutlineLint.Text.Basic

/-!
# UTF-8

Texts are stored as UTF-8.  The reader goes through the bytes once and keeps the
sequence that has been begun.  It stops at the first byte that cannot go on, and
names the bytes of the sequence up to there, at least one.  A byte order mark is
a character like any other.
-/

namespace OutlineLint

abbrev Bytes := List UInt8

namespace Utf8

def encode (text : Text) : Bytes :=
  text.flatMap String.utf8EncodeChar

/-- Why bytes are no text. -/
inductive Reason where
  | invalidStart
  | invalidContinuation
  | endOfData
  deriving DecidableEq, Repr

/--
The first bytes that are no text: where they begin, how many they
are, and the first of them.
-/
structure Fault where
  start : Nat
  count : Nat
  first : UInt8
  reason : Reason
  deriving DecidableEq, Repr

/--
A sequence of which some bytes are missing.  `value` holds the bits read, and
the next byte has to lie between `low` and `high`.
-/
structure Begun where
  start : Nat
  count : Nat
  first : UInt8
  value : Nat
  missing : Nat
  low : Nat
  high : Nat
  deriving DecidableEq, Repr

/-- The sequence of several bytes that a byte begins. -/
def begin? (start : Nat) (byte : UInt8) : Option Begun :=
  let code := byte.toNat
  if code < 0xC2 then none
  else if code < 0xE0 then some ⟨start, 1, byte, code - 0xC0, 1, 0x80, 0xBF⟩
  else if code = 0xE0 then some ⟨start, 1, byte, 0, 2, 0xA0, 0xBF⟩
  else if code = 0xED then some ⟨start, 1, byte, 0xD, 2, 0x80, 0x9F⟩
  else if code < 0xF0 then some ⟨start, 1, byte, code - 0xE0, 2, 0x80, 0xBF⟩
  else if code = 0xF0 then some ⟨start, 1, byte, 0, 3, 0x90, 0xBF⟩
  else if code < 0xF4 then some ⟨start, 1, byte, code - 0xF0, 3, 0x80, 0xBF⟩
  else if code = 0xF4 then some ⟨start, 1, byte, 4, 3, 0x80, 0x8F⟩
  else none

/-- The sequence with one more byte. -/
def Begun.next (begun : Begun) (byte : UInt8) : Begun :=
  { begun with
    count := begun.count + 1
    value := begun.value * 64 + byte.toNat % 64
    missing := begun.missing - 1
    low := 0x80
    high := 0xBF }

/-- The fault of a sequence that does not go on. -/
def Begun.fault (begun : Begun) (reason : Reason) : Fault :=
  ⟨begun.start, begun.count, begun.first, reason⟩

/--
Reads the bytes from an offset on, after those of the
sequence that has been begun.
-/
def decodeFrom (offset : Nat) (begun : Option Begun) : Bytes → Except Fault Text
  | [] =>
      match begun with
      | none => .ok []
      | some sequence => .error (sequence.fault .endOfData)
  | byte :: rest =>
      match begun with
      | none =>
          if byte.toNat < 0x80 then
            (decodeFrom (offset + 1) none rest).map (Char.ofNat byte.toNat :: ·)
          else
            match begin? offset byte with
            | none => .error ⟨offset, 1, byte, .invalidStart⟩
            | some sequence => decodeFrom (offset + 1) (some sequence) rest
      | some sequence =>
          if sequence.low ≤ byte.toNat && byte.toNat ≤ sequence.high then
            let longer := sequence.next byte
            if longer.missing = 0 then
              (decodeFrom (offset + 1) none rest).map
                (Char.ofNat longer.value :: ·)
            else
              decodeFrom (offset + 1) (some longer) rest
          else
            .error (sequence.fault .invalidContinuation)

def decode (bytes : Bytes) : Except Fault Text :=
  decodeFrom 0 none bytes

def Reason.words : Reason → Text
  | invalidStart => "invalid start byte".toList
  | invalidContinuation => "invalid continuation byte".toList
  | endOfData => "unexpected end of data".toList

/--
The message of a fault.  A single byte is shown, of several the positions.
-/
def Fault.message (fault : Fault) : Text :=
  let culprit :=
    if fault.count = 1 then
      " byte 0x".toList ++ Text.hexadecimal 2 fault.first.toNat
        ++ " in position ".toList ++ Text.ofNat fault.start
    else
      " bytes in position ".toList ++ Text.ofNat fault.start
        ++ '-' :: Text.ofNat (fault.start + fault.count - 1)
  "'utf-8' codec can't decode".toList ++ culprit ++ ": ".toList ++
    fault.reason.words

end Utf8

end OutlineLint
