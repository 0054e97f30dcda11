import Mathlib.Data.List.TakeWhile
import Mathlib.Data.Set.List
import OutlineLint.Proofs.Text.Utf8
import OutlineLint.Text.Letters

/-!
# Reading byte strings by letters

At most one character begins a byte string, so that the letters are determined
by what the bytes begin with.  Every byte string is made of the UTF-8 of
characters and of stray bytes, and the letters give it back.  It is the UTF-8 of
a text exactly if all its letters are characters, and then it is shown as that
text.
-/

namespace OutlineLint

/-- Two characters do not begin the same bytes. -/
theorem Utf8.encodeChar_prefix_unique
    {character other : Char} {bytes : Bytes}
    (first : String.utf8EncodeChar character <+: bytes)
    (second : String.utf8EncodeChar other <+: bytes) :
    character = other := by
  have unique {short long : Char}
      (begins :
        String.utf8EncodeChar short <+: String.utf8EncodeChar long) :
      long = short := by
    obtain ⟨rest, whole⟩ := begins
    have read := decode_encode [long]
    rw [encode_cons, show encode [] = [] from rfl, List.append_nil, ← whole,
      decode, decodeFrom_encodeChar] at read
    cases later : decodeFrom
        (0 + (String.utf8EncodeChar short).length) none rest with
    | error fault =>
        rw [later] at read
        cases read
    | ok text =>
        rw [later] at read
        cases read
        rfl
  rcases Nat.le_total (String.utf8EncodeChar character).length
      (String.utf8EncodeChar other).length with shorter | longer
  · exact (unique (List.prefix_of_prefix_length_le first second shorter)).symm
  · exact unique (List.prefix_of_prefix_length_le second first longer)

namespace Bytes

theorem firstCharacter?_eq_some_iff (bytes : Bytes) (character : Char) :
    bytes.firstCharacter? = some character ↔
      String.utf8EncodeChar character <+: bytes := by
  have sound {found : Char} (isFirst : bytes.firstCharacter? = some found) :
      String.utf8EncodeChar found <+: bytes := by
    obtain ⟨length, -, isFound⟩ := List.exists_of_findSome?_eq_some isFirst
    split at isFound
    · next only decoded =>
        cases isFound
        rw [Utf8.decode_eq_ok_iff, Utf8.encode_cons,
          show Utf8.encode [] = [] from rfl, List.append_nil] at decoded
        rw [decoded]
        exact List.take_prefix _ _
    · cases isFound
  refine ⟨sound, fun begins => ?_⟩
  cases isFirst : bytes.firstCharacter? with
  | some found =>
      rw [Utf8.encodeChar_prefix_unique begins (sound isFirst)]
  | none =>
      rw [firstCharacter?, List.findSome?_eq_none_iff] at isFirst
      have position := character.utf8Size_pos
      have bound := character.utf8Size_le_four
      have missed := isFirst character.utf8Size
        (by simp only [List.mem_cons, List.not_mem_nil]; omega)
      have taken :
          Utf8.encode [character] = bytes.take character.utf8Size := by
        rw [Utf8.encode_cons, show Utf8.encode [] = [] from rfl,
          List.append_nil, ← String.length_utf8EncodeChar]
        exact List.prefix_iff_eq_take.mp begins
      rw [(Utf8.decode_eq_ok_iff _ _).mpr taken] at missed
      cases missed

/-! ## One letter after the other -/

theorem lettersAfter_eq (skipped : Nat) (bytes : Bytes) :
    lettersAfter skipped bytes = Bytes.letters (bytes.drop skipped) := by
  induction skipped generalizing bytes with
  | zero => rfl
  | succ skipped ih =>
      cases bytes with
      | nil => rfl
      | cons byte rest => exact ih rest

theorem letters_character_append (character : Char) (rest : Bytes) :
    Bytes.letters (String.utf8EncodeChar character ++ rest) =
      .character character :: rest.letters := by
  obtain ⟨first, others, encoded⟩ :=
    List.exists_cons_of_ne_nil (Utf8.encodeChar_ne_nil character)
  have isFirst :
      firstCharacter? (first :: (others ++ rest)) = some character := by
    rw [firstCharacter?_eq_some_iff, encoded, ← List.cons_append]
    exact List.prefix_append _ _
  rw [encoded, List.cons_append, letters, lettersAfter, isFirst]
  simp only [lettersAfter_eq, encoded, List.length_cons, Nat.pred_succ,
    List.drop_left]

theorem letters_stray_cons
    {byte : UInt8} {rest : Bytes}
    (isStray : ∀ character : Char,
      ¬ String.utf8EncodeChar character <+: byte :: rest) :
    Bytes.letters (byte :: rest) = .stray byte :: rest.letters := by
  have noFirst : firstCharacter? (byte :: rest) = none := by
    rw [Option.eq_none_iff_forall_ne_some]
    intro character isFirst
    exact isStray character ((firstCharacter?_eq_some_iff _ _).mp isFirst)
  rw [letters, lettersAfter, noFirst]
  rfl

/-- Every byte string is empty, or begins with a character or a stray byte. -/
@[elab_as_elim]
theorem letterInduction
    {motive : Bytes → Prop} (nil : motive [])
    (character : ∀ (value : Char) (rest : Bytes),
      motive rest → motive (String.utf8EncodeChar value ++ rest))
    (stray : ∀ (byte : UInt8) (rest : Bytes),
      (∀ value : Char, ¬ String.utf8EncodeChar value <+: byte :: rest) →
        motive rest → motive (byte :: rest))
    (bytes : Bytes) : motive bytes := by
  induction length : bytes.length using Nat.strongRecOn
    generalizing bytes with
  | ind length ih =>
      subst length
      cases bytes with
      | nil => exact nil
      | cons byte rest =>
          by_cases begins : ∃ value : Char,
              String.utf8EncodeChar value <+: byte :: rest
          · obtain ⟨value, later, whole⟩ := begins
            rw [← whole]
            have takesByte :=
              List.length_pos_iff.mpr (Utf8.encodeChar_ne_nil value)
            refine character value later (ih later.length ?_ later rfl)
            rw [← whole, List.length_append]
            omega
          · exact stray byte rest (not_exists.mp begins)
              (ih rest.length (Nat.lt_succ_self _) rest rfl)

end Bytes

/-! ## Texts among byte strings -/

/-- The bytes that a letter stands for. -/
def Letter.bytes : Letter → Bytes
  | character value => String.utf8EncodeChar value
  | stray byte => [byte]

namespace Bytes

/-- Nothing is lost when bytes are read by letters. -/
theorem flatMap_letters (bytes : Bytes) :
    bytes.letters.flatMap Letter.bytes = bytes := by
  induction bytes using letterInduction with
  | nil => rfl
  | character value rest ih =>
      rw [letters_character_append, List.flatMap_cons, ih]
      rfl
  | stray byte rest isStray ih =>
      rw [letters_stray_cons isStray, List.flatMap_cons, ih]
      rfl

theorem letters_encode (text : Text) :
    Bytes.letters (Utf8.encode text) = text.map .character := by
  induction text with
  | nil => rfl
  | cons character rest ih =>
      rw [Utf8.encode_cons, letters_character_append, ih, List.map_cons]

/-- The bytes are the UTF-8 of a text. -/
def IsText (bytes : Bytes) : Prop :=
  ∃ text : Text, Utf8.encode text = bytes

theorem isText_iff_letters (bytes : Bytes) :
    bytes.IsText ↔ ∀ letter ∈ bytes.letters, letter.isCharacter = true := by
  constructor
  · rintro ⟨text, rfl⟩
    rw [letters_encode]
    exact List.forall_mem_map.mpr fun _ _ => rfl
  · intro areCharacters
    have inRange : bytes.letters ∈ Set.range (List.map Letter.character) := by
      rw [Set.range_list_map]
      intro letter member
      cases letter with
      | character value => exact ⟨value, rfl⟩
      | stray byte => cases areCharacters _ member
    obtain ⟨text, isMap⟩ := inRange
    refine ⟨text, ?_⟩
    calc
      Utf8.encode text
      _ = (letters (Utf8.encode text)).flatMap Letter.bytes :=
        (flatMap_letters _).symm
      _ = bytes.letters.flatMap Letter.bytes := by rw [letters_encode, isMap]
      _ = bytes := flatMap_letters bytes

instance (bytes : Bytes) : Decidable bytes.IsText :=
  decidable_of_iff _ bytes.isText_iff_letters.symm

/-- A text among the byte strings is shown as it is. -/
theorem shown_encode (text : Text) :
    Bytes.shown (Utf8.encode text) = text := by
  rw [shown, letters_encode, List.flatMap_map]
  exact List.flatMap_singleton' text

end Bytes

/-! ## Letters that can be written -/

theorem encodingFault?_eq_none_iff (letters : List Letter) :
    encodingFault? letters = none ↔
      ∀ letter ∈ letters, letter.isCharacter = true := by
  rw [← List.dropWhile_eq_nil_iff, encodingFault?]
  cases rest : letters.dropWhile Letter.isCharacter with
  | nil => simp
  | cons letter later =>
      cases letter with
      | stray byte => simp
      | character value =>
          have something : letters.dropWhile Letter.isCharacter ≠ [] := by
            rw [rest]
            exact List.cons_ne_nil _ _
          have notCharacter :=
            List.head_dropWhile_not Letter.isCharacter something
          simp only [rest, List.head_cons] at notCharacter
          cases notCharacter

end OutlineLint
