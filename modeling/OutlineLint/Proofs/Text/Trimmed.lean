import Mathlib.Data.List.DropRight
import OutlineLint.Text.Blank

/-!
# Trimmed texts

A trimmed text begins and ends with characters that are no blanks, so that
trimming it again changes nothing.  The first word of a text survives trimming.
-/

namespace OutlineLint.Text

theorem trimRight_cons
    {character : Char} (visible : isBlank character = false) (rest : Text) :
    trimRight (character :: rest) = character :: trimRight rest := by
  unfold trimRight
  rw [List.reverse_cons, List.dropWhile_append]
  split
  · next allBlank =>
      rw [List.isEmpty_iff] at allBlank
      simp [allBlank, visible]
  · simp

theorem isBlank_of_mem_head?_trimLeft
    {text : Text} {character : Char}
    (isHead : character ∈ (trimLeft text).head?) :
    isBlank character = false := by
  have notBlank := List.head?_dropWhile_not isBlank text
  rw [trimLeft, Option.mem_def] at isHead
  rw [isHead] at notBlank
  exact notBlank

theorem trimLeft_trim (text : Text) : trimLeft (trim text) = trim text := by
  unfold trim
  cases left : trimLeft text with
  | nil => rfl
  | cons character rest =>
      have isHead : character ∈ (trimLeft text).head? := by simp [left]
      have visible : isBlank character = false :=
        isBlank_of_mem_head?_trimLeft isHead
      rw [trimRight_cons visible, trimLeft,
        List.dropWhile_cons_of_neg (by simp [visible])]

theorem trimRight_trimRight (text : Text) :
    trimRight (trimRight text) = trimRight text :=
  List.rdropWhile_idempotent isBlank text

@[simp]
theorem trim_trim (text : Text) : text.trim.trim = text.trim := by
  rw [trim, trimLeft_trim, trim, trimRight_trimRight]

theorem takeWhile_trimRight (text : Text) :
    (trimRight text).takeWhile (!isBlank ·) = text.takeWhile (!isBlank ·) := by
  induction text with
  | nil => rfl
  | cons character rest ih =>
      by_cases visible : isBlank character = false
      · rw [trimRight_cons visible, List.takeWhile_cons, List.takeWhile_cons,
          ih]
      · have shortened : trimRight (character :: rest) <+: character :: rest :=
          List.rdropWhile_prefix isBlank _
        cases trimmed : trimRight (character :: rest) with
        | nil => simp [visible]
        | cons head tail =>
            rw [trimmed, List.cons_prefix_cons] at shortened
            simp [shortened.1, visible]

@[simp]
theorem firstWord_trim (text : Text) :
    text.trim.firstWord = text.firstWord := by
  rw [firstWord, trimLeft_trim, trim, takeWhile_trimRight, firstWord]

end OutlineLint.Text
