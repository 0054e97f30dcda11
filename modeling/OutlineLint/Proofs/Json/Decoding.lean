import Mathlib.Data.List.TakeWhile
import Mathlib.Tactic.SplitIfs
import OutlineLint.Proofs.Json.Grammar

/-!
# Decoding JSON

The decoder reads a document from left to right.  Each reader takes the form of
one thing off the beginning of the text and leaves the rest.  The decoder
accepts exactly the documents of the grammar and gives the values that they
stand for, so a document stands for one value only.

Readers that call themselves count down from a bound; the length of the
text is large enough for all of them, for every call follows a
character that has been read.
-/

namespace OutlineLint.Json

/-! ## The decoder -/

def skip (input : Text) : Text :=
  input.dropWhile isSpace

/-- Reads a word off the text, if the text begins with it. -/
def readWord? (word input : Text) : Option Text :=
  if word.isPrefixOf input then some (input.drop word.length) else none

def readNatural? (input : Text) : Option (Nat × Text) :=
  let digits := input.takeWhile Char.isDigit
  if digits.isEmpty || (digits.head? = some '0' && digits != ['0']) then none
  else some (valueOf digits, input.dropWhile Char.isDigit)

def readNumeral? (input : Text) : Option (Int × Text) :=
  match readWord? ['-'] input with
  | some digits =>
      (readNatural? digits).map fun (value, rest) => (-(value : Int), rest)
  | none => (readNatural? input).map fun (value, rest) => ((value : Int), rest)

def readUnit? (input : Text) : Option (Nat × Text) :=
  if input.length < 4 then none
  else (hexNumber? 0 (input.take 4)).map (·, input.drop 4)

/-- Reads the code units of an escape behind its first one. -/
def readSurrogates? (unit : Nat) (input : Text) : Option (Char × Text) :=
  if isHighSurrogate unit then do
    let second ← readWord? ['\\', 'u'] input
    let (low, rest) ← readUnit? second
    if isLowSurrogate low then some (Char.ofNat (ofSurrogates unit low), rest)
      else none
  else if isLowSurrogate unit then none
  else some (Char.ofNat unit, input)

/-- Reads what is behind a backslash. -/
def readEscape? : Text → Option (Char × Text)
  | [] => none
  | letter :: rest =>
      if letter = 'u' then
        (readUnit? rest).bind fun (unit, rest) => readSurrogates? unit rest
      else (shortEscape? letter).map (·, rest)

def readCharacter? : Text → Option (Char × Text)
  | [] => none
  | first :: rest =>
      if first = '\\' then readEscape? rest
      else if isPlain first then some (first, rest)
      else none

/-- Reads characters up to the quote that ends the string. -/
def readCharacters? : Nat → Text → Option (Text × Text)
  | 0, _ => none
  | bound + 1, input =>
      match readWord? ['"'] input with
      | some rest => some ([], rest)
      | none => do
          let (character, rest) ← readCharacter? input
          let (characters, rest) ← readCharacters? bound rest
          some (character :: characters, rest)

def readString? (bound : Nat) (input : Text) : Option (Text × Text) :=
  (readWord? ['"'] input).bind (readCharacters? bound)

section Blocks

variable {α : Type}

/-- Reads one item or more up to the closing bracket. -/
def readItems? (closer : Char) (readItem? : Text → Option (α × Text)) :
    Nat → Text → Option (List α × Text)
  | 0, _ => none
  | bound + 1, input => do
      let (item, rest) ← readItem? (skip input)
      match readWord? [closer] (skip rest) with
      | some rest => some ([item], rest)
      | none => do
          let rest ← readWord? [','] (skip rest)
          let (items, rest) ← readItems? closer readItem? bound rest
          some (item :: items, rest)

def readBlock? (opener closer : Char) (readItem? : Text → Option (α × Text))
    (bound : Nat) (input : Text) : Option (List α × Text) :=
  (readWord? [opener] input).bind fun inside =>
    match readWord? [closer] (skip inside) with
    | some rest => some ([], rest)
    | none => readItems? closer readItem? bound inside

end Blocks

def readMember?
    (bound : Nat) (readValue? : Text → Option (Json × Text)) (input : Text) :
    Option ((Text × Json) × Text) := do
  let (key, rest) ← readString? bound input
  let rest ← readWord? [':'] (skip rest)
  let (value, rest) ← readValue? (skip rest)
  some ((key, value), rest)

/-- Reads a value; its first character tells what it is. -/
def readValue? : Nat → Text → Option (Json × Text)
  | 0, _ => none
  | bound + 1, input =>
      match input.head? with
      | none => none
      | some 'n' => (readWord? "null".toList input).map (.null, ·)
      | some 't' => (readWord? "true".toList input).map (.boolean true, ·)
      | some 'f' => (readWord? "false".toList input).map (.boolean false, ·)
      | some '"' => (readString? bound input).map (Prod.map .text id)
      | some '[' =>
          (readBlock? '[' ']' (readValue? bound) bound input).map
            (Prod.map .list id)
      | some '{' =>
          (readBlock? '{' '}'
              (readMember? bound (readValue? bound)) bound input).map
            (Prod.map .object id)
      | some _ => (readNumeral? input).map (Prod.map .integer id)

/-- The value that a document stands for. -/
def decode? (input : Text) : Option Json := do
  let (value, rest) ← readValue? input.length (skip input)
  if rest.all isSpace then some value else none

/-! ## What is read is a form -/

/-- The reader takes a form of what it gives off the beginning of the text. -/
def Sound
    {α : Type} (form : α → Text → Prop) (read? : Text → Option (α × Text)) :
    Prop :=
  ∀ ⦃input : Text⦄ ⦃item : α⦄ ⦃rest : Text⦄, read? input = some (item, rest) →
    ∃ front, form item front ∧ input = front ++ rest

theorem readWord?_eq_some_iff (word input rest : Text) :
    readWord? word input = some rest ↔ input = word ++ rest := by
  rw [readWord?]
  constructor
  · intro read
    split at read
    · next atStart =>
        obtain ⟨back, rfl⟩ := List.isPrefixOf_iff_prefix.mp atStart
        rw [List.drop_left, Option.some.injEq] at read
        rw [read]
    · contradiction
  · rintro rfl
    rw [if_pos (List.isPrefixOf_iff_prefix.mpr (List.prefix_append _ _)),
      List.drop_left]

theorem exists_spaces (input : Text) :
    ∃ space, Spaces space ∧ input = space ++ skip input :=
  ⟨input.takeWhile isSpace, fun _ member => List.mem_takeWhile_imp member,
    List.takeWhile_append_dropWhile.symm⟩

theorem readNatural?_sound :
    Sound (fun value digits => Digits digits ∧ valueOf digits = value)
      readNatural? := by
  intro input value rest read
  simp only [readNatural?] at read
  split at read
  · contradiction
  · next isNatural =>
      obtain ⟨rfl, rfl⟩ := Prod.mk.inj (Option.some.inj read)
      refine ⟨input.takeWhile Char.isDigit, ⟨⟨?_, ?_, ?_⟩, rfl⟩,
        List.takeWhile_append_dropWhile.symm⟩
      · intro empty
        simp [empty] at isNatural
      · exact fun _ member => List.mem_takeWhile_imp member
      · intro startsZero
        simp [startsZero] at isNatural
        exact isNatural.2

theorem readNumeral?_sound : Sound Numeral readNumeral? := by
  intro input value rest read
  rw [readNumeral?] at read
  split at read
  · next digits negative =>
      obtain ⟨⟨natural, back⟩, readDigits, same⟩ :=
        Option.map_eq_some_iff.mp read
      obtain ⟨front, ⟨isNatural, rfl⟩, rfl⟩ := readNatural?_sound readDigits
      obtain ⟨rfl, rfl⟩ := Prod.mk.inj same
      rw [readWord?_eq_some_iff] at negative
      exact ⟨'-' :: front, .negated isNatural, negative⟩
  · obtain ⟨⟨natural, back⟩, readDigits, same⟩ := Option.map_eq_some_iff.mp read
    obtain ⟨front, ⟨isNatural, rfl⟩, rfl⟩ := readNatural?_sound readDigits
    obtain ⟨rfl, rfl⟩ := Prod.mk.inj same
    exact ⟨front, .natural isNatural, rfl⟩

theorem readUnit?_sound : Sound CodeUnit readUnit? := by
  intro input unit rest read
  rw [readUnit?] at read
  split at read
  · contradiction
  · next enough =>
      obtain ⟨value, number, same⟩ := Option.map_eq_some_iff.mp read
      obtain ⟨rfl, rfl⟩ := Prod.mk.inj same
      exact ⟨input.take 4, ⟨by rw [List.length_take]; omega, number⟩,
        (List.take_append_drop 4 input).symm⟩

/-- Behind the first code unit of an escape stands the rest of the escape. -/
theorem readSurrogates?_sound
    {unit : Nat} {digits : Text} (isUnit : CodeUnit unit digits)
    {input rest : Text} {character : Char}
    (read : readSurrogates? unit input = some (character, rest)) :
    ∃ back, CharacterForm character ('\\' :: 'u' :: digits ++ back) ∧
      input = back ++ rest := by
  rw [readSurrogates?] at read
  split_ifs at read with isHigh isLow
  · obtain ⟨second, marked, readSecond⟩ := Option.bind_eq_some_iff.mp read
    obtain ⟨⟨low, last⟩, readLow, paired⟩ :=
      Option.bind_eq_some_iff.mp readSecond
    obtain ⟨lowDigits, lowUnit, rfl⟩ := readUnit?_sound readLow
    rw [readWord?_eq_some_iff] at marked
    dsimp only at paired
    split_ifs at paired with isLow
    obtain ⟨rfl, rfl⟩ := Prod.mk.inj (Option.some.inj paired)
    exact ⟨'\\' :: 'u' :: lowDigits, .pair isUnit isHigh lowUnit isLow, marked⟩
  · obtain ⟨rfl, rfl⟩ := Prod.mk.inj (Option.some.inj read)
    refine ⟨[], ?_, rfl⟩
    rw [List.append_nil]
    exact .unit isUnit (eq_false_of_ne_true isHigh) (eq_false_of_ne_true isLow)

theorem readEscape?_sound :
    Sound (fun character back => CharacterForm character ('\\' :: back))
      readEscape? := by
  intro input character rest read
  rcases input with _ | ⟨letter, input⟩
  · contradiction
  rw [readEscape?] at read
  split_ifs at read with marked
  · subst marked
    obtain ⟨⟨unit, back⟩, readUnit, readBack⟩ := Option.bind_eq_some_iff.mp read
    obtain ⟨digits, isUnit, inputEq⟩ := readUnit?_sound readUnit
    obtain ⟨others, isForm, backEq⟩ := readSurrogates?_sound isUnit readBack
    refine ⟨'u' :: digits ++ others, isForm, ?_⟩
    rw [inputEq, backEq]
    simp
  · obtain ⟨value, meaning, same⟩ := Option.map_eq_some_iff.mp read
    obtain ⟨rfl, rfl⟩ := Prod.mk.inj same
    exact ⟨[letter], .short meaning, rfl⟩

theorem readCharacter?_sound : Sound CharacterForm readCharacter? := by
  intro input character rest read
  rcases input with _ | ⟨first, input⟩
  · contradiction
  rw [readCharacter?] at read
  split_ifs at read with escape plain
  · obtain ⟨back, isForm, rfl⟩ := readEscape?_sound read
    exact ⟨'\\' :: back, isForm, by rw [escape]; rfl⟩
  · obtain ⟨rfl, rfl⟩ := Prod.mk.inj (Option.some.inj read)
    exact ⟨[first], .plain plain, rfl⟩

theorem readCharacters?_sound (bound : Nat) :
    Sound (fun text front => ∃ forms, CharacterForms text forms ∧
        front = forms ++ ['"'])
      (readCharacters? bound) := by
  induction bound with
  | zero => exact nofun
  | succ bound ih =>
      intro input text rest read
      rw [readCharacters?] at read
      split at read
      · next ended =>
          obtain ⟨rfl, rfl⟩ := Prod.mk.inj (Option.some.inj read)
          exact ⟨['"'], ⟨[], .nil, rfl⟩, (readWord?_eq_some_iff ..).mp ended⟩
      · obtain ⟨⟨character, back⟩, readFirst, read⟩ :=
          Option.bind_eq_some_iff.mp read
        obtain ⟨⟨characters, back'⟩, readOthers, read⟩ :=
          Option.bind_eq_some_iff.mp read
        obtain ⟨rfl, rfl⟩ := Prod.mk.inj (Option.some.inj read)
        obtain ⟨form, isForm, rfl⟩ := readCharacter?_sound readFirst
        obtain ⟨_, ⟨forms, areForms, rfl⟩, rfl⟩ := ih readOthers
        exact ⟨form ++ forms ++ ['"'],
          ⟨form ++ forms, .cons isForm areForms, rfl⟩, by simp⟩

theorem readString?_sound (bound : Nat) :
    Sound StringForm (readString? bound) := by
  intro input text rest read
  obtain ⟨inside, opened, read⟩ := Option.bind_eq_some_iff.mp read
  rw [readWord?_eq_some_iff] at opened
  obtain ⟨_, ⟨forms, areForms, rfl⟩, rfl⟩ := readCharacters?_sound bound read
  exact ⟨_, .quoted areForms, by rw [opened]; rfl⟩

section Blocks

variable {α : Type} {form : α → Text → Prop}
  {readItem? : Text → Option (α × Text)}

theorem readItems?_sound
    (sound : Sound form readItem?) (closer : Char) (bound : Nat) :
    Sound (fun items front => ∃ forms, ItemForms form items forms ∧
        front = forms ++ [closer])
      (readItems? closer readItem? bound) := by
  induction bound with
  | zero => exact nofun
  | succ bound ih =>
      intro input items rest read
      obtain ⟨⟨item, back⟩, readFirst, read⟩ := Option.bind_eq_some_iff.mp read
      obtain ⟨before, spaceBefore, split⟩ := exists_spaces input
      obtain ⟨after, spaceAfter, backSplit⟩ := exists_spaces back
      obtain ⟨text, isForm, skipped⟩ := sound readFirst
      rw [skipped, backSplit] at split
      dsimp only at read
      cases closing : readWord? [closer] (skip back) with
      | some behind =>
          rw [closing, Option.some.injEq, Prod.mk.injEq] at read
          obtain ⟨rfl, rfl⟩ := read
          rw [readWord?_eq_some_iff] at closing
          refine ⟨_, ⟨_, .last spaceBefore isForm spaceAfter, rfl⟩, ?_⟩
          rw [split, closing]
          simp
      | none =>
          rw [closing] at read
          obtain ⟨behind, comma, read⟩ := Option.bind_eq_some_iff.mp read
          obtain ⟨⟨others, behind'⟩, readOthers, read⟩ :=
            Option.bind_eq_some_iff.mp read
          obtain ⟨rfl, rfl⟩ := Prod.mk.inj (Option.some.inj read)
          rw [readWord?_eq_some_iff] at comma
          obtain ⟨_, ⟨forms, areForms, rfl⟩, rfl⟩ := ih readOthers
          refine ⟨_, ⟨_, .more spaceBefore isForm spaceAfter areForms, rfl⟩, ?_⟩
          rw [split, comma]
          simp

theorem readBlock?_sound
    (sound : Sound form readItem?) (opener closer : Char) (bound : Nat) :
    Sound (BlockForm opener closer form)
      (readBlock? opener closer readItem? bound) := by
  intro input items rest read
  obtain ⟨inside, opened, read⟩ := Option.bind_eq_some_iff.mp read
  rw [readWord?_eq_some_iff] at opened
  split at read
  · next behind closing =>
      obtain ⟨rfl, rfl⟩ := Prod.mk.inj (Option.some.inj read)
      rw [readWord?_eq_some_iff] at closing
      obtain ⟨between, space, split⟩ := exists_spaces inside
      refine ⟨_, .empty space, ?_⟩
      rw [opened, split, closing]
      simp
  · obtain ⟨_, ⟨forms, areForms, rfl⟩, rfl⟩ :=
      readItems?_sound sound closer bound read
    exact ⟨_, .full areForms, by rw [opened]; rfl⟩

end Blocks

theorem readMember?_sound
    {readValue? : Text → Option (Json × Text)} {form : Json → Text → Prop}
    (sound : Sound form readValue?) (bound : Nat) :
    Sound (MemberForm form) (readMember? bound readValue?) := by
  rintro input ⟨key, value⟩ rest read
  obtain ⟨⟨key', back⟩, readKey, read⟩ := Option.bind_eq_some_iff.mp read
  obtain ⟨behind, colon, read⟩ := Option.bind_eq_some_iff.mp read
  obtain ⟨⟨value', rest'⟩, readItem, read⟩ := Option.bind_eq_some_iff.mp read
  simp only [Option.some.injEq, Prod.mk.injEq] at read
  obtain ⟨⟨rfl, rfl⟩, rfl⟩ := read
  rw [readWord?_eq_some_iff] at colon
  obtain ⟨keyForm, isKey, rfl⟩ := readString?_sound bound readKey
  obtain ⟨text, isForm, skipped⟩ := sound readItem
  obtain ⟨before, spaceBefore, split⟩ := exists_spaces back
  obtain ⟨after, spaceAfter, behindSplit⟩ := exists_spaces behind
  refine ⟨_, .named isKey spaceBefore spaceAfter isForm, ?_⟩
  rw [split, colon, behindSplit, skipped]
  simp

theorem readValue?_sound (bound : Nat) :
    Sound ValueForm (readValue? bound) := by
  induction bound with
  | zero => exact nofun
  | succ bound ih =>
      intro input value rest read
      rw [readValue?] at read
      split at read
      · contradiction
      all_goals
        obtain ⟨found, readItem, same⟩ := Option.map_eq_some_iff.mp read
        obtain ⟨rfl, rfl⟩ := Prod.mk.inj same
      · exact ⟨_, .null, (readWord?_eq_some_iff ..).mp readItem⟩
      · exact ⟨_, .yes, (readWord?_eq_some_iff ..).mp readItem⟩
      · exact ⟨_, .no, (readWord?_eq_some_iff ..).mp readItem⟩
      · obtain ⟨front, isString, rfl⟩ := readString?_sound bound readItem
        exact ⟨front, .text isString, rfl⟩
      · obtain ⟨front, isBlock, rfl⟩ :=
          readBlock?_sound ih '[' ']' bound readItem
        exact ⟨front, .list isBlock, rfl⟩
      · obtain ⟨front, isBlock, rfl⟩ :=
          readBlock?_sound (readMember?_sound ih bound) '{' '}' bound readItem
        exact ⟨front, .object isBlock, rfl⟩
      · obtain ⟨front, isNumeral, rfl⟩ := readNumeral?_sound readItem
        exact ⟨front, .integer isNumeral, rfl⟩

/-- What is decoded is a document of the value. -/
theorem document_of_decode?
    {input : Text} {value : Json} (decoded : decode? input = some value) :
    Document value input := by
  obtain ⟨⟨found, rest⟩, read, accepted⟩ := Option.bind_eq_some_iff.mp decoded
  dsimp only at accepted
  split_ifs at accepted with space
  rw [Option.some.injEq] at accepted
  subst accepted
  obtain ⟨front, isForm, skipped⟩ := readValue?_sound _ read
  obtain ⟨before, spaceBefore, split⟩ := exists_spaces input
  rw [split, skipped, ← List.append_assoc]
  exact .padded spaceBefore isForm (List.all_eq_true.mp space)

end OutlineLint.Json
