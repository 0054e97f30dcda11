import OutlineLint.Proofs.Text.LowerFixed
import OutlineLint.Text.Utf8
import Mathlib.Tactic.SplitIfs

/-!
# Reading UTF-8 back

The reader is the inverse of `encode`: it reads the bytes of a text back into
the text and refuses all other bytes.  A fault is reported at the end of the
longest beginning of the bytes that is the form of a text.

The reader takes one character after the other.  A first byte begins a sequence
of two, three or four bytes, and the bytes that complete it are exactly those of
one character: what would be too long a form, a surrogate or no code point at
all is kept out by the range of the second byte.
-/

namespace OutlineLint.Utf8

/-! ## Bytes of a character -/

theorem encodeChar_one
    {character : Char} {byte : UInt8} (ascii : byte.toNat < 0x80)
    (code : character.toNat = byte.toNat) :
    String.utf8EncodeChar character = [byte] := by
  have value : character.val.toNat = byte.toNat := code
  simp only [String.utf8EncodeChar, value]
  rw [if_pos (by omega)]
  simp only [List.cons.injEq, and_true, ← UInt8.toNat_inj, UInt8.toNat_ofNat']
  omega

theorem encodeChar_two
    {character : Char} {first second : UInt8}
    (firstRange : 0xC2 ≤ first.toNat ∧ first.toNat < 0xE0)
    (secondRange : 0x80 ≤ second.toNat ∧ second.toNat ≤ 0xBF)
    (code : character.toNat = (first.toNat - 0xC0) * 64 + second.toNat % 64) :
    String.utf8EncodeChar character = [first, second] := by
  have value :
      character.val.toNat = (first.toNat - 0xC0) * 64 + second.toNat % 64 :=
    code
  simp only [String.utf8EncodeChar, value]
  rw [if_neg (by omega), if_pos (by omega)]
  simp only [List.cons.injEq, and_true, ← UInt8.toNat_inj, UInt8.toNat_ofNat']
  omega

theorem encodeChar_three
    {character : Char} {first second third : UInt8}
    (firstRange : 0xE0 ≤ first.toNat ∧ first.toNat < 0xF0)
    (secondRange : 0x80 ≤ second.toNat ∧ second.toNat ≤ 0xBF)
    (thirdRange : 0x80 ≤ third.toNat ∧ third.toNat ≤ 0xBF)
    (code : character.toNat =
      ((first.toNat - 0xE0) * 64 + second.toNat % 64) * 64 + third.toNat % 64)
    (notShorter : 0x800 ≤ character.toNat) :
    String.utf8EncodeChar character = [first, second, third] := by
  have value : character.val.toNat = character.toNat := rfl
  simp only [String.utf8EncodeChar, value]
  rw [if_neg (by omega), if_neg (by omega), if_pos (by omega)]
  simp only [List.cons.injEq, and_true, ← UInt8.toNat_inj, UInt8.toNat_ofNat']
  omega

theorem encodeChar_four
    {character : Char} {first second third fourth : UInt8}
    (firstRange : 0xF0 ≤ first.toNat ∧ first.toNat < 0xF5)
    (secondRange : 0x80 ≤ second.toNat ∧ second.toNat ≤ 0xBF)
    (thirdRange : 0x80 ≤ third.toNat ∧ third.toNat ≤ 0xBF)
    (fourthRange : 0x80 ≤ fourth.toNat ∧ fourth.toNat ≤ 0xBF)
    (code : character.toNat =
      (((first.toNat - 0xF0) * 64 + second.toNat % 64) * 64
        + third.toNat % 64) * 64 + fourth.toNat % 64)
    (notShorter : 0x10000 ≤ character.toNat) :
    String.utf8EncodeChar character = [first, second, third, fourth] := by
  have value : character.val.toNat = character.toNat := rfl
  simp only [String.utf8EncodeChar, value]
  rw [if_neg (by omega), if_neg (by omega), if_neg (by omega)]
  simp only [List.cons.injEq, and_true, ← UInt8.toNat_inj, UInt8.toNat_ofNat']
  omega

theorem encodeChar_ne_nil (character : Char) :
    String.utf8EncodeChar character ≠ [] := by
  simp only [String.utf8EncodeChar]
  repeat' split
  all_goals exact List.cons_ne_nil _ _

/-! ## Sequences -/

/-- The bytes end the sequence and the bits read are those of the code point. -/
def Begun.Completes (begun : Begun) (code : Nat) : Bytes → Prop
  | [] => begun.missing = 0 ∧ begun.value = code
  | byte :: rest =>
      begun.missing ≠ 0 ∧ (begun.low ≤ byte.toNat ∧ byte.toNat ≤ begun.high) ∧
        (begun.next byte).Completes code rest

/-- A sequence of two bytes. -/
def beginTwo (start : Nat) (byte : UInt8) : Begun :=
  ⟨start, 1, byte, byte.toNat - 0xC0, 1, 0x80, 0xBF⟩

/--
A sequence of three bytes.  After `E0` and `ED` not every
continuation is in range.
-/
def beginThree (start : Nat) (byte : UInt8) : Begun :=
  ⟨start, 1, byte, byte.toNat - 0xE0, 2,
    if byte.toNat = 0xE0 then 0xA0 else 0x80,
    if byte.toNat = 0xED then 0x9F else 0xBF⟩

/--
A sequence of four bytes.  After `F0` and `F4` not every
continuation is in range.
-/
def beginFour (start : Nat) (byte : UInt8) : Begun :=
  ⟨start, 1, byte, byte.toNat - 0xF0, 3,
    if byte.toNat = 0xF0 then 0x90 else 0x80,
    if byte.toNat = 0xF4 then 0x8F else 0xBF⟩

theorem begin?_eq (start : Nat) (byte : UInt8) :
    begin? start byte =
      if byte.toNat < 0xC2 then none
      else if byte.toNat < 0xE0 then some (beginTwo start byte)
      else if byte.toNat < 0xF0 then some (beginThree start byte)
      else if byte.toNat < 0xF5 then some (beginFour start byte)
      else none := by
  simp only [begin?, beginTwo, beginThree, beginFour]
  split_ifs <;>
    try simp only [Option.some.injEq, Begun.mk.injEq, true_and, and_true]
  all_goals omega

theorem start_of_begin?
    {start : Nat} {byte : UInt8} {begun : Begun}
    (isBegun : begin? start byte = some begun) :
    begun.start = start ∧ begun.missing ≠ 0 ∧ 0x80 ≤ byte.toNat := by
  rw [begin?_eq] at isBegun
  split_ifs at isBegun <;> rw [Option.some.injEq] at isBegun <;>
    subst isBegun <;> exact ⟨rfl, Nat.succ_ne_zero _, by omega⟩

theorem Begun.completes_iff_of_missing_zero
    {begun : Begun} (noneMissing : begun.missing = 0) (code : Nat)
    (bytes : Bytes) :
    begun.Completes code bytes ↔ bytes = [] ∧ begun.value = code := by
  cases bytes <;> simp [Begun.Completes, noneMissing]

theorem Begun.completes_iff_of_missing_succ
    {begun : Begun} {fewer : Nat} (someMissing : begun.missing = fewer + 1)
    (code : Nat) (bytes : Bytes) :
    begun.Completes code bytes ↔
      ∃ byte rest, bytes = byte :: rest ∧
        (begun.low ≤ byte.toNat ∧ byte.toNat ≤ begun.high) ∧
        (begun.next byte).Completes code rest := by
  cases bytes with
  | nil => simp [Begun.Completes, someMissing]
  | cons byte rest =>
      constructor
      · rintro ⟨-, inRange, completes⟩
        exact ⟨byte, rest, rfl, inRange, completes⟩
      · rintro ⟨_, _, same, inRange, completes⟩
        obtain ⟨rfl, rfl⟩ := List.cons.inj same
        exact ⟨by omega, inRange, completes⟩

theorem beginTwo_completes_iff
    (start code : Nat) (byte : UInt8) (rest : Bytes) :
    (beginTwo start byte).Completes code rest ↔
      ∃ second, rest = [second] ∧ (0x80 ≤ second.toNat ∧ second.toNat ≤ 0xBF) ∧
        code = (byte.toNat - 0xC0) * 64 + second.toNat % 64 := by
  rw [Begun.completes_iff_of_missing_succ rfl]
  constructor
  · rintro ⟨second, rest, rfl, inRange, completes⟩
    rw [Begun.completes_iff_of_missing_zero rfl] at completes
    exact ⟨second, by rw [completes.1], inRange, completes.2.symm⟩
  · rintro ⟨second, rfl, inRange, value⟩
    exact ⟨second, [], rfl, inRange, rfl, value.symm⟩

theorem beginThree_completes_iff
    (start code : Nat) (byte : UInt8) (rest : Bytes) :
    (beginThree start byte).Completes code rest ↔
      ∃ second third, rest = [second, third] ∧
        ((if byte.toNat = 0xE0 then 0xA0 else 0x80) ≤ second.toNat ∧
          second.toNat ≤ if byte.toNat = 0xED then 0x9F else 0xBF) ∧
        (0x80 ≤ third.toNat ∧ third.toNat ≤ 0xBF) ∧
        code =
          ((byte.toNat - 0xE0) * 64 + second.toNat % 64) * 64 +
            third.toNat % 64 := by
  rw [Begun.completes_iff_of_missing_succ rfl]
  constructor
  · rintro ⟨second, rest, rfl, inRange, completes⟩
    rw [Begun.completes_iff_of_missing_succ rfl] at completes
    obtain ⟨third, rest, rfl, thirdInRange, completes⟩ := completes
    rw [Begun.completes_iff_of_missing_zero rfl] at completes
    exact ⟨second, third, by rw [completes.1], inRange, thirdInRange,
      completes.2.symm⟩
  · rintro ⟨second, third, rfl, inRange, thirdInRange, value⟩
    exact ⟨second, _, rfl, inRange, Nat.succ_ne_zero _, thirdInRange, rfl,
      value.symm⟩

theorem beginFour_completes_iff
    (start code : Nat) (byte : UInt8) (rest : Bytes) :
    (beginFour start byte).Completes code rest ↔
      ∃ second third fourth, rest = [second, third, fourth] ∧
        ((if byte.toNat = 0xF0 then 0x90 else 0x80) ≤ second.toNat ∧
          second.toNat ≤ if byte.toNat = 0xF4 then 0x8F else 0xBF) ∧
        (0x80 ≤ third.toNat ∧ third.toNat ≤ 0xBF) ∧
        (0x80 ≤ fourth.toNat ∧ fourth.toNat ≤ 0xBF) ∧
        code =
          (((byte.toNat - 0xF0) * 64 + second.toNat % 64) * 64
            + third.toNat % 64) * 64 + fourth.toNat % 64 := by
  rw [Begun.completes_iff_of_missing_succ rfl]
  constructor
  · rintro ⟨second, rest, rfl, inRange, completes⟩
    rw [Begun.completes_iff_of_missing_succ rfl] at completes
    obtain ⟨third, rest, rfl, thirdInRange, completes⟩ := completes
    rw [Begun.completes_iff_of_missing_succ rfl] at completes
    obtain ⟨fourth, rest, rfl, fourthInRange, completes⟩ := completes
    rw [Begun.completes_iff_of_missing_zero rfl] at completes
    exact ⟨second, third, fourth, by rw [completes.1], inRange, thirdInRange,
      fourthInRange, completes.2.symm⟩
  · rintro ⟨second, third, fourth, rfl, inRange, thirdInRange, fourthInRange,
      value⟩
    exact ⟨second, _, rfl, inRange, Nat.succ_ne_zero _, thirdInRange,
      Nat.succ_ne_zero _, fourthInRange, rfl, value.symm⟩

/--
The bytes that complete a sequence make one character with
the byte that begins it.
-/
theorem exists_character_of_completes
    {start code : Nat} {byte : UInt8} {begun : Begun} {rest : Bytes}
    (isBegun : begin? start byte = some begun)
    (completes : begun.Completes code rest) :
    ∃ character : Char, character.toNat = code ∧
      String.utf8EncodeChar character = byte :: rest := by
  rw [begin?_eq] at isBegun
  split_ifs at isBegun with _ isTwo isThree isFour <;>
    rw [Option.some.injEq] at isBegun <;> subst isBegun
  · obtain ⟨second, rfl, secondRange, value⟩ :=
      (beginTwo_completes_iff ..).mp completes
    have valid : code.isValidChar := by simp only [Nat.isValidChar]; omega
    have number := Text.toNat_ofNat_of_valid valid
    exact ⟨Char.ofNat code, number,
      encodeChar_two (by omega) secondRange (by rw [number, value])⟩
  · obtain ⟨second, third, rfl, secondRange, thirdRange, value⟩ :=
      (beginThree_completes_iff ..).mp completes
    have valid : code.isValidChar := by simp only [Nat.isValidChar]; grind
    have number := Text.toNat_ofNat_of_valid valid
    exact ⟨Char.ofNat code, number,
      encodeChar_three (by omega) (by grind) thirdRange (by rw [number, value])
        (by grind)⟩
  · obtain ⟨second, third, fourth, rfl, secondRange, thirdRange, fourthRange,
        value⟩ :=
      (beginFour_completes_iff ..).mp completes
    have valid : code.isValidChar := by simp only [Nat.isValidChar]; grind
    have number := Text.toNat_ofNat_of_valid valid
    exact ⟨Char.ofNat code, number,
      encodeChar_four (by omega) (by grind) thirdRange fourthRange
        (by rw [number, value])
        (by grind)⟩

theorem exists_byte (number : Nat) (small : number < 256) :
    ∃ byte : UInt8, byte.toNat = number :=
  ⟨.ofNat number, by rw [UInt8.toNat_ofNat', Nat.mod_eq_of_lt small]⟩

/--
A character above ASCII is a byte that begins a sequence
and bytes that complete it.
-/
theorem exists_completes_of_character
    {character : Char} (aboveAscii : 0x80 ≤ character.toNat) (start : Nat) :
    ∃ byte begun rest, String.utf8EncodeChar character = byte :: rest ∧
      begin? start byte = some begun ∧
      begun.Completes character.toNat rest := by
  have valid : character.toNat.isValidChar := character.valid
  simp only [Nat.isValidChar] at valid
  obtain ⟨last, lastValue⟩ :=
    exists_byte (0x80 + character.toNat % 64) (by omega)
  rcases Nat.lt_or_ge character.toNat 0x800 with isTwo | notTwo
  · obtain ⟨first, firstValue⟩ :=
      exists_byte (0xC0 + character.toNat / 64) (by omega)
    refine ⟨first, beginTwo start first, [last],
      encodeChar_two (by omega) (by omega) (by omega), ?_,
      (beginTwo_completes_iff ..).mpr ⟨last, rfl, by omega, by omega⟩⟩
    rw [begin?_eq, if_neg (by omega), if_pos (by omega)]
  obtain ⟨third, thirdValue⟩ :=
    exists_byte (0x80 + character.toNat / 64 % 64) (by omega)
  rcases Nat.lt_or_ge character.toNat 0x10000 with isThree | isFour
  · obtain ⟨first, firstValue⟩ :=
      exists_byte (0xE0 + character.toNat / 4096) (by omega)
    refine ⟨first, beginThree start first, [third, last],
      encodeChar_three (by omega) (by omega) (by omega) (by omega) notTwo, ?_,
      (beginThree_completes_iff ..).mpr
        ⟨third, last, rfl, ⟨by split_ifs <;> omega, by split_ifs <;> omega⟩,
          by omega, by omega⟩⟩
    rw [begin?_eq, if_neg (by omega), if_neg (by omega), if_pos (by omega)]
  · obtain ⟨first, firstValue⟩ :=
      exists_byte (0xF0 + character.toNat / 262144) (by omega)
    obtain ⟨second, secondValue⟩ :=
      exists_byte (0x80 + character.toNat / 4096 % 64) (by omega)
    refine ⟨first, beginFour start first, [second, third, last],
      encodeChar_four (by omega) (by omega) (by omega) (by omega)
          (by omega) isFour,
      ?_,
      (beginFour_completes_iff ..).mpr
        ⟨second, third, last, rfl,
          ⟨by split_ifs <;> omega, by split_ifs <;> omega⟩, by omega,
          by omega, by omega⟩⟩
    rw [begin?_eq, if_neg (by omega), if_neg (by omega), if_neg (by omega),
      if_pos (by omega)]

/-! ## Reading a character -/

theorem decodeFrom_of_completes
    {begun : Begun} {code : Nat} {bytes : Bytes}
    (someMissing : begun.missing ≠ 0) (completes : begun.Completes code bytes)
    (offset : Nat) (rest : Bytes) :
    decodeFrom offset (some begun) (bytes ++ rest) =
      (decodeFrom (offset + bytes.length) none rest).map
        (Char.ofNat code :: ·) := by
  induction bytes generalizing begun offset with
  | nil => exact absurd completes.1 someMissing
  | cons byte bytes ih =>
      obtain ⟨-, inRange, completes⟩ := completes
      have reads :
          (decide (begun.low ≤ byte.toNat) &&
              decide (byte.toNat ≤ begun.high)) = true := by
        simpa using inRange
      rw [List.cons_append, decodeFrom]
      simp only [reads, if_true]
      split
      · next noneMissing =>
          rw [Begun.completes_iff_of_missing_zero noneMissing] at completes
          obtain ⟨rfl, rfl⟩ := completes
          rfl
      · next stillMissing =>
          rw [ih stillMissing completes, List.length_cons, Nat.add_right_comm,
            Nat.add_assoc]

/-- A sequence that is not completed ends in a fault at its first byte. -/
theorem exists_fault_or_completes
    {begun : Begun} (someMissing : begun.missing ≠ 0) (offset : Nat)
    (bytes : Bytes) :
    (∃ code front rest, bytes = front ++ rest ∧ begun.Completes code front) ∨
      ∃ fault, decodeFrom offset (some begun) bytes = .error fault ∧
        fault.start = begun.start := by
  induction bytes generalizing begun offset with
  | nil => exact .inr ⟨_, rfl, rfl⟩
  | cons byte bytes ih =>
      by_cases inRange : begun.low ≤ byte.toNat ∧ byte.toNat ≤ begun.high
      · by_cases noneMissing : (begun.next byte).missing = 0
        · exact .inl
            ⟨_, [byte], bytes, rfl, someMissing, inRange, noneMissing, rfl⟩
        · rcases ih noneMissing
            (offset + 1) with ⟨code, front, rest, rfl, completes⟩ | faulty
          · exact .inl
              ⟨code, byte :: front, rest, rfl, someMissing, inRange, completes⟩
          · refine .inr ?_
            rwa [decodeFrom, if_pos (by simpa using inRange),
              if_neg noneMissing]
      · refine .inr ⟨begun.fault .invalidContinuation, ?_, rfl⟩
        rw [decodeFrom, if_neg (by simpa using inRange)]

theorem decodeFrom_ascii
    {byte : UInt8} (ascii : byte.toNat < 0x80) (offset : Nat) (rest : Bytes) :
    decodeFrom offset none (byte :: rest) =
      (decodeFrom (offset + 1) none rest).map (Char.ofNat byte.toNat :: ·) := by
  rw [decodeFrom]
  exact if_pos ascii

theorem decodeFrom_of_begin?
    {offset : Nat} {byte : UInt8} {begun : Begun}
    (isBegun : begin? offset byte = some begun) (rest : Bytes) :
    decodeFrom offset none (byte :: rest) =
      decodeFrom (offset + 1) (some begun) rest := by
  obtain ⟨-, -, aboveAscii⟩ := start_of_begin? isBegun
  rw [decodeFrom]
  simp only [isBegun]
  exact if_neg (by omega)

theorem decodeFrom_of_begin?_eq_none
    {offset : Nat} {byte : UInt8} (aboveAscii : 0x80 ≤ byte.toNat)
    (notBegun : begin? offset byte = none) (rest : Bytes) :
    decodeFrom offset none (byte :: rest) =
      .error ⟨offset, 1, byte, .invalidStart⟩ := by
  rw [decodeFrom]
  simp only [notBegun]
  exact if_neg (by omega)

/-- The form of a character is read as the character, whatever follows. -/
theorem decodeFrom_encodeChar (offset : Nat) (character : Char) (rest : Bytes) :
    decodeFrom offset none (String.utf8EncodeChar character ++ rest) =
      (decodeFrom
          (offset + (String.utf8EncodeChar character).length) none rest).map
        (character :: ·) := by
  rcases Nat.lt_or_ge character.toNat 0x80 with ascii | aboveAscii
  · obtain ⟨byte, byteValue⟩ := exists_byte character.toNat (by omega)
    rw [encodeChar_one (by omega) byteValue.symm, List.singleton_append,
      decodeFrom_ascii (by omega), byteValue, Char.ofNat_toNat]
    rfl
  · obtain ⟨byte, begun, tail, form, isBegun, completes⟩ :=
      exists_completes_of_character aboveAscii offset
    obtain ⟨-, someMissing, -⟩ := start_of_begin? isBegun
    rw [form, List.cons_append, decodeFrom_of_begin? isBegun,
      decodeFrom_of_completes someMissing completes, Char.ofNat_toNat,
      List.length_cons, Nat.add_right_comm, Nat.add_assoc]

/-- Bytes that no character begins are refused where they begin. -/
theorem exists_character_or_fault
    (offset : Nat) {bytes : Bytes} (notEmpty : bytes ≠ []) :
    (∃ character rest, bytes = String.utf8EncodeChar character ++ rest) ∨
      ∃ fault, decodeFrom offset none bytes = .error fault ∧
        fault.start = offset := by
  obtain ⟨byte, rest, rfl⟩ := List.exists_cons_of_ne_nil notEmpty
  rcases Nat.lt_or_ge byte.toNat 0x80 with ascii | aboveAscii
  · have valid : byte.toNat.isValidChar := by simp only [Nat.isValidChar]; omega
    refine .inl ⟨Char.ofNat byte.toNat, rest, ?_⟩
    rw [encodeChar_one ascii (Text.toNat_ofNat_of_valid valid)]
    rfl
  cases isBegun : begin? offset byte with
  | none =>
      exact .inr ⟨_, decodeFrom_of_begin?_eq_none aboveAscii isBegun rest, rfl⟩
  | some begun =>
      obtain ⟨start, someMissing, -⟩ := start_of_begin? isBegun
      rw [decodeFrom_of_begin? isBegun]
      rcases exists_fault_or_completes someMissing (offset + 1) rest with
        ⟨code, front, back, rfl, completes⟩ | faulty
      · obtain ⟨character, -, form⟩ :=
          exists_character_of_completes isBegun completes
        exact .inl ⟨character, back, by rw [form, List.cons_append]⟩
      · obtain ⟨fault, faulty, faultStart⟩ := faulty
        exact .inr ⟨fault, faulty, faultStart.trans start⟩

/-! ## Reading a text -/

theorem encode_cons (character : Char) (text : Text) :
    encode (character :: text) =
      String.utf8EncodeChar character ++ encode text :=
  rfl

theorem decodeFrom_encode_append (offset : Nat) (text : Text) (rest : Bytes) :
    decodeFrom offset none (encode text ++ rest) =
      (decodeFrom (offset + (encode text).length) none rest).map
        (text ++ ·) := by
  induction text generalizing offset with
  | nil =>
      change decodeFrom offset none rest =
        (decodeFrom offset none rest).map ([] ++ ·)
      cases decodeFrom offset none rest <;> rfl
  | cons character text ih =>
      rw [encode_cons, List.append_assoc, decodeFrom_encodeChar, ih,
        List.length_append, Nat.add_assoc]
      cases decodeFrom (offset + _) none rest <;> rfl

/--
The reader takes the form of a text from the beginning of the bytes.  It leaves
nothing over, or ends in a fault where that form ends.
-/
theorem exists_text_of_decodeFrom (offset : Nat) (bytes : Bytes) :
    ∃ text rest, bytes = encode text ++ rest ∧
      (rest = [] ∧ decodeFrom offset none bytes = .ok text ∨
        ∃ fault, decodeFrom offset none bytes = .error fault ∧
          fault.start = offset + (encode text).length) := by
  -- Every character takes a byte at least, so the induction is
  -- on the number of bytes.
  induction size : bytes.length using Nat.strongRecOn
    generalizing bytes offset with
  | _ bound ih =>
      rcases Decidable.em (bytes = []) with rfl | notEmpty
      · exact ⟨[], [], rfl, .inl ⟨rfl, rfl⟩⟩
      rcases exists_character_or_fault offset notEmpty
        with ⟨character, rest, rfl⟩ | faulty
      · have shorter : rest.length < bound := by
          have takesByte :=
            List.length_pos_iff.mpr (encodeChar_ne_nil character)
          rw [List.length_append] at size
          omega
        rw [decodeFrom_encodeChar]
        obtain ⟨text, back, rfl, outcome⟩ :=
          ih _ shorter
            (offset + (String.utf8EncodeChar character).length) rest rfl
        refine
          ⟨character :: text, back, by rw [encode_cons, List.append_assoc], ?_⟩
        rcases outcome with ⟨rfl, read⟩ | ⟨fault, faulty, start⟩
        · exact .inl ⟨rfl, by rw [read]; rfl⟩
        · refine .inr ⟨fault, by rw [faulty]; rfl, ?_⟩
          rw [start, encode_cons, List.length_append, Nat.add_assoc]
      · exact ⟨[], bytes, rfl, .inr faulty⟩

/-- The reader reads a text back from its bytes. -/
theorem decode_encode (text : Text) : decode (encode text) = .ok text := by
  have read := decodeFrom_encode_append 0 text []
  rwa [List.append_nil, decodeFrom, Except.map, List.append_nil] at read

theorem encode_injective
    {text other : Text} (same : encode text = encode other) :
    text = other := by
  have read := decode_encode text
  rw [same, decode_encode, Except.ok.injEq] at read
  exact read.symm

/-- The reader reads the bytes of texts and nothing else. -/
theorem decode_eq_ok_iff (bytes : Bytes) (text : Text) :
    decode bytes = .ok text ↔ encode text = bytes := by
  constructor
  · intro read
    obtain ⟨front, rest, rfl, ⟨rfl, readFront⟩ | ⟨fault, faulty, -⟩⟩ :=
      exists_text_of_decodeFrom 0 bytes
    · rw [decode, readFront, Except.ok.injEq] at read
      rw [read, List.append_nil]
    · rw [decode, faulty] at read
      contradiction
  · rintro rfl
    exact decode_encode text

/--
The longest beginning of the bytes that is the form of a text has this length.
-/
structure LongestText (bytes : Bytes) (length : Nat) : Prop where
  reached : ∃ text, encode text <+: bytes ∧ (encode text).length = length
  longest : ∀ text, encode text <+: bytes → (encode text).length ≤ length

/--
A fault is reported where the longest text at the beginning of the bytes ends.
-/
theorem longestText_of_decode_error
    {bytes : Bytes} {fault : Fault} (faulty : decode bytes = .error fault) :
    LongestText bytes fault.start where
  reached := by
    obtain ⟨text, rest, rfl, ⟨rfl, read⟩ | ⟨other, faulty', start⟩⟩ :=
      exists_text_of_decodeFrom 0 bytes
    · rw [decode, read] at faulty
      contradiction
    · rw [decode, faulty', Except.error.injEq] at faulty
      subst faulty
      exact ⟨text, List.prefix_append _ _, by rw [start, Nat.zero_add]⟩
  longest := by
    rintro text ⟨rest, rfl⟩
    rw [decode, decodeFrom_encode_append, Nat.zero_add] at faulty
    obtain ⟨front, back, -, ⟨-, read⟩ | ⟨other, faulty', start⟩⟩ :=
      exists_text_of_decodeFrom (encode text).length rest
    · rw [read] at faulty
      contradiction
    · rw [faulty', Except.map, Except.error.injEq] at faulty
      subst faulty
      omega

end OutlineLint.Utf8
