import OutlineLint.Outline.Line
import OutlineLint.Proofs.Text.Pattern

/-!
# The grammar of labels

A label is a phrase: one word, or two words with one blank between them.  The
words are made of letters, digits, underscores, hyphens and apostrophes.  A
phrase holds no comma, no bar and no bracket, and at most one space divides it.
So the texts that are turned away before their words are looked at are no
phrases either, and whether a text is a label depends on its words alone.

The phrases are also what a pattern with an optional second word describes.

No character of a word is a blank.  So the first word of a label ends where its
first run of word characters ends, and it is such a word.
-/

namespace OutlineLint.Label

/--
The letters A to Z and a to z, the digits, the underscore, the
hyphen and the apostrophe.
-/
def InWords (character : Char) : Prop :=
  ('A' ≤ character ∧ character ≤ 'Z') ∨ ('a' ≤ character ∧ character ≤ 'z') ∨
    ('0' ≤ character ∧ character ≤ '9') ∨
      character = '_' ∨ character = '-' ∨ character = '\''

instance (character : Char) : Decidable (InWords character) :=
  inferInstanceAs (Decidable (_ ∨ _))

/-- One or more characters of words. -/
structure Word (text : Text) : Prop where
  nonempty : text ≠ []
  inWords : ∀ character ∈ text, InWords character

/-- One word, or two words with one blank between them. -/
inductive Phrase : Text → Prop where
  | one {word : Text} (isWord : Word word) : Phrase word
  | two {first second : Text} {separator : Char} (isFirst : Word first)
      (isBlank : Text.isBlank separator = true) (isSecond : Word second) :
      Phrase (first ++ separator :: second)

/-! ## Words -/

theorem isWordCharacter_iff (character : Char) :
    isWordCharacter character = true ↔ InWords character := by
  have upper : character.isUpper = true ↔ 'A' ≤ character ∧ character ≤ 'Z' :=
    decide_eq_true_iff
  have lower : character.isLower = true ↔ 'a' ≤ character ∧ character ≤ 'z' :=
    (Bool.and_eq_true_iff).trans
      (and_congr decide_eq_true_iff decide_eq_true_iff)
  have digit : character.isDigit = true ↔ '0' ≤ character ∧ character ≤ '9' :=
    (Bool.and_eq_true_iff).trans
      (and_congr decide_eq_true_iff decide_eq_true_iff)
  have alphanumeric : character.isAlphanum = true ↔
      (character.isUpper = true ∨ character.isLower = true) ∨
        character.isDigit = true :=
    (Bool.or_eq_true_iff).trans (or_congr_left (Bool.or_eq_true_iff))
  simp only [isWordCharacter, InWords, Bool.or_eq_true, alphanumeric, upper,
    lower, digit, decide_eq_true_eq, or_assoc]

theorem InWords.isBlank_eq_false
    {character : Char} (inWord : InWords character) :
    Text.isBlank character = false := by
  have codes :
      (65 ≤ character.toNat ∧ character.toNat ≤ 90) ∨
        (97 ≤ character.toNat ∧ character.toNat ≤ 122) ∨
          (48 ≤ character.toNat ∧ character.toNat ≤ 57) ∨
            character.toNat = 95 ∨ character.toNat = 45 ∨
            character.toNat = 39 := by
    simp only [InWords, Char.le_def, UInt32.le_iff_toNat_le,
      ← Char.toNat_inj] at inWord
    exact inWord
  simp only [Text.isBlank, Text.blankRanges, CodeRanges.covers, List.any_cons,
    List.any_nil, Bool.or_eq_false_iff, Bool.and_eq_false_iff,
    decide_eq_false_iff_not, Bool.or_false]
  omega

theorem isWordCharacter_eq_false_of_isBlank
    {character : Char} (isBlank : Text.isBlank character = true) :
    isWordCharacter character = false := by
  rw [← Bool.not_eq_true, isWordCharacter_iff]
  intro inWord
  rw [inWord.isBlank_eq_false] at isBlank
  cases isBlank

theorem word_iff (text : Text) :
    Word text ↔
      text ≠ [] ∧ ∀ character ∈ text, isWordCharacter character = true := by
  constructor
  · rintro ⟨nonempty, inWords⟩
    exact ⟨nonempty, fun character member =>
      (isWordCharacter_iff character).mpr (inWords character member)⟩
  · rintro ⟨nonempty, wordCharacters⟩
    exact ⟨nonempty, fun character member =>
      (isWordCharacter_iff character).mp (wordCharacters character member)⟩

theorem isWord_iff (text : Text) : isWord text = true ↔ Word text := by
  rw [word_iff]
  simp [isWord]

/--
The word characters at the beginning of a text are dropped
up to the end of a word.
-/
theorem Word.dropWhile_append {word : Text} (isWord : Word word) (rest : Text) :
    (word ++ rest).dropWhile isWordCharacter = rest.dropWhile isWordCharacter :=
  List.dropWhile_append_of_pos ((word_iff word).mp isWord).2

theorem Word.takeWhile_append {word : Text} (isWord : Word word) (rest : Text) :
    (word ++ rest).takeWhile isWordCharacter =
      word ++ rest.takeWhile isWordCharacter :=
  List.takeWhile_append_of_pos ((word_iff word).mp isWord).2

theorem Word.not_mem {word : Text} {character : Char} (isWord : Word word)
    (outside : ¬ InWords character) : character ∉ word :=
  fun member => outside (isWord.inWords character member)

/-! ## Phrases -/

theorem isOneOrTwoWords_iff (content : Text) :
    isOneOrTwoWords content = true ↔ Phrase content := by
  constructor
  · intro words
    rw [isOneOrTwoWords] at words
    -- Either the first run of word characters is the whole text, or
    -- something follows it.
    split at words
    · exact .one ((isWord_iff content).mp words)
    · next separator second separated =>
      simp only [Bool.and_eq_true, isWord_iff] at words
      obtain ⟨⟨isFirst, isBlank⟩, isSecond⟩ := words
      have whole :
          content.takeWhile isWordCharacter ++ separator ::
              second = content := by
        rw [← separated, List.takeWhile_append_dropWhile]
      rw [← whole]
      exact .two isFirst isBlank isSecond
  · intro phrase
    cases phrase with
    | one isWord =>
        have nothingLeft : content.dropWhile isWordCharacter = [] := by
          simpa using isWord.dropWhile_append []
        rw [isOneOrTwoWords, nothingLeft]
        exact (isWord_iff content).mpr isWord
    | two isFirst isBlank isSecond =>
        have noWord := isWordCharacter_eq_false_of_isBlank isBlank
        rw [isOneOrTwoWords, isFirst.dropWhile_append, isFirst.takeWhile_append,
          List.dropWhile_cons_of_neg (by simp [noWord]),
          List.takeWhile_cons_of_neg (by simp [noWord]), List.append_nil]
        simp only [Bool.and_eq_true, isWord_iff]
        exact ⟨⟨isFirst, isBlank⟩, isSecond⟩

theorem Word.not_mem_append_cons
    {first second : Text} {separator character : Char} (isFirst : Word first)
    (isSecond : Word second) (outside : ¬ InWords character)
    (differs : character ≠ separator) :
    character ∉ first ++ separator :: second := by
  rw [List.mem_append, List.mem_cons]
  rintro (inFirst | same | inSecond)
  · exact isFirst.not_mem outside inFirst
  · exact differs same
  · exact isSecond.not_mem outside inSecond

/-- A phrase has nothing in it but characters of words and one blank. -/
theorem Phrase.not_mem
    {content : Text} {character : Char} (phrase : Phrase content)
    (outside : ¬ InWords character) (visible : Text.isBlank character = false) :
    character ∉ content := by
  cases phrase with
  | one isWord => exact isWord.not_mem outside
  | two isFirst isBlank isSecond =>
      refine isFirst.not_mem_append_cons isSecond outside ?_
      rintro rfl
      rw [visible] at isBlank
      cases isBlank

/--
A space divides a phrase if it stands between the two words, and no other does.
-/
theorem Phrase.length_splitOn_le {content : Text} (phrase : Phrase content) :
    (content.splitOn ' ').length ≤ 2 := by
  have outside : ¬ InWords ' ' := by decide
  cases phrase with
  | one isWord =>
      rw [List.splitOn_eq_singleton (isWord.not_mem outside)]
      exact Nat.le_succ 1
  | @two first second separator isFirst isBlank isSecond =>
      by_cases isSpace : separator = ' '
      · rw [isSpace,
          List.splitOn_append_cons_self_of_not_mem (isFirst.not_mem outside),
          List.splitOn_eq_singleton (isSecond.not_mem outside)]
        exact Nat.le_refl 2
      · have undivided : ' ' ∉ first ++ separator :: second :=
          isFirst.not_mem_append_cons isSecond outside (Ne.symm isSpace)
        rw [List.splitOn_eq_singleton undivided]
        exact Nat.le_succ 1

/-! ## Labels -/

/-- A text that is turned away before its words are looked at is no phrase. -/
theorem isLabel_eq_isOneOrTwoWords (content : Text) :
    isLabel content = isOneOrTwoWords content := by
  rw [isLabel, Bool.and_eq_right_iff_imp]
  intro words
  have phrase := (isOneOrTwoWords_iff content).mp words
  have noComma : ',' ∉ content := phrase.not_mem (by decide) (by decide)
  have noBar : '|' ∉ content := phrase.not_mem (by decide) (by decide)
  have noBracket : content.head? ≠ some '[' := fun isHead =>
    phrase.not_mem (by decide) (by decide) (List.mem_of_head? isHead)
  have fewPieces : (content.splitOn ' ').length ≤ 4 :=
    Nat.le_trans phrase.length_splitOn_le (by decide)
  simp [noComma, noBar, noBracket, fewPieces]

theorem isLabel_iff (content : Text) :
    isLabel content = true ↔ Phrase content := by
  rw [isLabel_eq_isOneOrTwoWords, isOneOrTwoWords_iff]

/-- Any one blank divides two words; two blanks are one too many. -/
example :
    isLabel "red\tshoes".toList = true ∧ isLabel "red\nshoes".toList = true ∧
      isLabel "red\u2003shoes".toList = true ∧
      isLabel "red  shoes".toList = false := by
  decide

/-- A word and, perhaps, one blank and a second word. -/
def pattern : Pattern :=
  .sequence (.run isWordCharacter)
    (.optional (.sequence (.single Text.isBlank) (.run isWordCharacter)))

theorem describes_pattern_iff (content : Text) :
    pattern.Describes content ↔ Phrase content := by
  constructor
  · rintro ⟨first, rest, isFirst,
      ⟨_, second, ⟨separator, isBlank, rfl⟩, isSecond, rfl⟩ | rfl, rfl⟩
    · exact .two ((word_iff first).mpr isFirst) isBlank
        ((word_iff second).mpr isSecond)
    · rw [List.append_nil]
      exact .one ((word_iff first).mpr isFirst)
  · intro phrase
    cases phrase with
    | one isWord =>
        exact ⟨content, [], (word_iff content).mp isWord, Or.inr rfl,
          (List.append_nil content).symm⟩
    | @two first second separator isFirst isBlank isSecond =>
        have isSecondPart : (Pattern.sequence (.single Text.isBlank)
            (.run isWordCharacter)).Describes (separator :: second) :=
          ⟨[separator], second, ⟨separator, isBlank, rfl⟩,
            (word_iff second).mp isSecond, rfl⟩
        exact ⟨first, separator :: second, (word_iff first).mp isFirst,
          Or.inl isSecondPart, rfl⟩

theorem isOneOrTwoWords_eq_accepts (content : Text) :
    isOneOrTwoWords content = pattern.accepts content := by
  rw [Bool.eq_iff_iff, isOneOrTwoWords_iff, Pattern.accepts_iff,
    describes_pattern_iff]

/-! ## The first word -/

/-- A word that a text begins with is its first word, if a blank ends it. -/
theorem Word.firstWord_append
    {word rest : Text} (isWord : Word word)
    (ends : ∀ character ∈ rest.head?, Text.isBlank character = true) :
    Text.firstWord (word ++ rest) = word := by
  have visible : ∀ character ∈ word, (!Text.isBlank character) = true :=
    fun character member => by
      simp [(isWord.inWords character member).isBlank_eq_false]
  have noLeading : Text.trimLeft (word ++ rest) = word ++ rest := by
    obtain ⟨first, others, rfl⟩ := List.exists_cons_of_ne_nil isWord.nonempty
    exact List.dropWhile_cons_of_neg
      (by simpa using visible first List.mem_cons_self)
  have nothing : rest.takeWhile (!Text.isBlank ·) = [] := by
    cases rest with
    | nil => rfl
    | cons separator more =>
        exact List.takeWhile_cons_of_neg (by simp [ends separator rfl])
  rw [Text.firstWord, noLeading, List.takeWhile_append_of_pos visible, nothing,
    List.append_nil]

/-- The first word of a label is a word in the sense of labels. -/
theorem word_firstWord_of_isLabel
    {content : Text} (label : isLabel content = true) :
    Word (Text.firstWord content) := by
  cases (isLabel_iff content).mp label with
  | one isWord =>
      have whole : Text.firstWord (content ++ []) = content :=
        isWord.firstWord_append nofun
      rw [List.append_nil] at whole
      rwa [whole]
  | two isFirst isBlank _ =>
      rw [isFirst.firstWord_append (by rintro character ⟨⟩; exact isBlank)]
      exact isFirst

end OutlineLint.Label
