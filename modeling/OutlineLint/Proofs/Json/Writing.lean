import Mathlib.Data.List.Forall2
import OutlineLint.Proofs.Json.Exactness
import OutlineLint.Proofs.Text.Decimal

/-!
# Documents that are written

What is written for a value is a document of the grammar that stands for the
value, at every level of indentation.  So the decoder reads every value back,
and different values have different documents.
-/

namespace OutlineLint.Json

/-! ## Strings -/

theorem hexValue?_digitChar {digit : Nat} (isDigit : digit < 16) :
    hexValue? (Nat.digitChar digit) = some digit := by
  have all : ∀ digit < 16, hexValue? (Nat.digitChar digit) = some digit := by
    decide
  exact all digit isDigit

theorem codeUnit_hexadecimal (code : Nat) (small : code < 0x10000) :
    CodeUnit code (Text.hexadecimal 4 code) where
  four := Text.length_hexadecimal 4 code
  value := by
    have written : Text.hexadecimal 4 code =
        [Nat.digitChar (code / 16 / 16 / 16 % 16),
          Nat.digitChar (code / 16 / 16 % 16), Nat.digitChar (code / 16 % 16),
          Nat.digitChar (code % 16)] :=
      rfl
    have value (number : Nat) :
        hexValue? (Nat.digitChar (number % 16)) = some (number % 16) :=
      hexValue?_digitChar (Nat.mod_lt _ (by decide))
    rw [written]
    simp only [hexNumber?, value, Option.some.injEq]
    omega

theorem characterForm_escaped (character : Char) :
    CharacterForm character (escaped character) := by
  unfold escaped
  split_ifs with quote backslash feed carriage tab bell form control
  · subst quote
    exact .short rfl
  · subst backslash
    exact .short rfl
  · subst feed
    exact .short rfl
  · subst carriage
    exact .short rfl
  · subst tab
    exact .short rfl
  · subst bell
    exact .short rfl
  · subst form
    exact .short rfl
  · have unit := codeUnit_hexadecimal character.toNat (by omega)
    have isForm := CharacterForm.unit unit
      (by simp [isHighSurrogate]; omega) (by simp [isLowSurrogate]; omega)
    rwa [Char.ofNat_toNat] at isForm
  · exact .plain (by simp [isPlain, quote, backslash]; omega)

theorem stringForm_writeText (text : Text) :
    StringForm text (writeText text) := by
  have forms : CharacterForms text (text.flatMap escaped) := by
    induction text with
    | nil => exact .nil
    | cons character text ih => exact .cons (characterForm_escaped character) ih
  exact .quoted forms

/-! ## Numbers -/

theorem ofNat_eq_zero_of_head?
    {value : Nat} (startsZero : (Text.ofNat value).head? = some '0') :
    Text.ofNat value = ['0'] := by
  induction value using Nat.strongRecOn with
  | _ value ih =>
      rw [Text.ofNat] at startsZero ⊢
      rcases Nat.lt_or_ge value 10 with single | several
      · rw [Nat.toDigits_of_lt_base single, List.head?_singleton,
          Option.some.injEq] at startsZero
        rw [Nat.toDigits_of_lt_base single, startsZero]
      · rw [Nat.toDigits_of_base_le (by decide) several,
          List.head?_append_of_ne_nil _ Nat.toDigits_ne_nil] at startsZero
        -- The digits in front of the last are those of a smaller
        -- number, which is not zero.
        have front := ih (value / 10) (by omega) startsZero
        have frontZero : value / 10 = 0 :=
          Text.ofNat_injective (front.trans rfl)
        omega

/-- Decimal digits have no zero before others. -/
theorem digits_ofNat (value : Nat) : Digits (Text.ofNat value) where
  nonempty := Nat.toDigits_ne_nil
  decimal := fun _ member => Text.isDigit_of_mem_ofNat member
  shortest := ofNat_eq_zero_of_head?

theorem numeral_ofInt (value : Int) : Numeral value (Text.ofInt value) := by
  cases value with
  | ofNat value =>
      have isNumeral := Numeral.natural (digits_ofNat value)
      rwa [valueOf, Text.ofNat, Nat.ofDigitChars_ten_toDigits] at isNumeral
  | negSucc value =>
      have isNumeral := Numeral.negated (digits_ofNat (value + 1))
      rwa [valueOf, Text.ofNat, Nat.ofDigitChars_ten_toDigits] at isNumeral

/-! ## Lists and objects -/

theorem spaces_newLine (level : Nat) : Spaces (newLine level) := by
  intro character member
  rcases List.mem_cons.mp member with rfl | inIndentation
  · rfl
  · rw [List.eq_of_mem_replicate inIndentation]
    rfl

section Blocks

variable {α : Type} {form : α → Text → Prop}

/-- Parts on lines of their own are forms between commas. -/
theorem itemForms_lines
    {space after : Text} (isSpaces : Spaces space) (spaceAfter : Spaces after)
    {items : List α} {parts : List Text}
    (areForms : List.Forall₂ form items parts) (nonempty : parts ≠ []) :
    ItemForms form items
      (space ++ List.intercalate (',' :: space) parts ++ after) := by
  induction areForms with
  | nil => contradiction
  | @cons item part items parts isForm areForms ih =>
      cases areForms with
      | nil =>
          rw [List.intercalate_singleton]
          exact .last isSpaces isForm spaceAfter
      | @cons next nextPart _ _ nextForm others =>
          have rest := ih (List.cons_ne_nil _ _)
          have forms : ItemForms form (item :: next :: _)
              (space ++ part ++ [] ++ ',' ::
                (space ++ List.intercalate (',' :: space) _ ++ after)) :=
            .more isSpaces isForm nofun rest
          rw [List.intercalate_cons_cons]
          simpa using forms

theorem blockForm_writeBlock
    (level : Nat) (opener closer : Char) {items : List α} {parts : List Text}
    (areForms : List.Forall₂ form items parts) :
    BlockForm opener closer form items
      (writeBlock level opener closer parts) := by
  rw [writeBlock]
  split
  · next noParts =>
      rw [List.isEmpty_iff] at noParts
      subst noParts
      cases areForms
      have none : BlockForm opener closer form [] (opener :: [] ++ [closer]) :=
        .empty nofun
      exact none
  · next someParts =>
      have nonempty : parts ≠ [] := by
        rintro rfl
        exact someParts rfl
      have forms :=
        itemForms_lines (spaces_newLine (level + 1))
          (spaces_newLine level) areForms
        nonempty
      have block :
          BlockForm opener closer form items (opener :: _ ++ [closer]) :=
        .full forms
      simpa using block

end Blocks

/-! ## Values -/

mutual

/-- What is written for a value is a form of the value. -/
theorem valueForm_write (level : Nat) :
    ∀ value, ValueForm value (write level value)
  | .null => .null
  | .boolean true => .yes
  | .boolean false => .no
  | .integer value => .integer (numeral_ofInt value)
  | .text content => .text (stringForm_writeText content)
  | .list elements =>
      .list (blockForm_writeBlock level '[' ']'
        (valueForms_writeElements (level + 1) elements))
  | .object members =>
      .object (blockForm_writeBlock level '\x7b' '\x7d'
        (memberForms_writeMembers (level + 1) members))

theorem valueForms_writeElements (level : Nat) :
    ∀ elements, List.Forall₂ ValueForm elements (writeElements level elements)
  | [] => .nil
  | element :: rest =>
      .cons (valueForm_write level element)
        (valueForms_writeElements level rest)

theorem memberForms_writeMembers (level : Nat) :
    ∀ members,
      List.Forall₂ (MemberForm ValueForm) members (writeMembers level members)
  | [] => .nil
  | (key, value) :: rest => by
      refine .cons ?_ (memberForms_writeMembers level rest)
      have space : Spaces [' '] := List.forall_mem_singleton.mpr rfl
      have named : MemberForm ValueForm (key, value)
          (writeText key ++ [] ++ ':' :: [' '] ++ write level value) :=
        .named (stringForm_writeText key) nofun space
          (valueForm_write level value)
      simpa using named

end

theorem document_write (level : Nat) (value : Json) :
    Document value (write level value) := by
  have padded : Document value ([] ++ write level value ++ []) :=
    .padded nofun (valueForm_write level value) nofun
  simpa using padded

/-- The decoder reads a value back from what is written for it. -/
theorem decode?_write (level : Nat) (value : Json) :
    decode? (write level value) = some value :=
  decode?_of_document (document_write level value)

theorem write_injective
    {level : Nat} {value other : Json}
    (same : write level value = write level other) :
    value = other := by
  have decoded := decode?_write level value
  rw [same, decode?_write, Option.some.injEq] at decoded
  exact decoded.symm

end OutlineLint.Json
