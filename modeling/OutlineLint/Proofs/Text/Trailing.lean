import OutlineLint.Proofs.Text.Trimmed
import OutlineLint.Text.Lines

/-!
# Trailing blanks

A line is its part up to the last visible character, followed by blanks.  The
carriage return of a line ending is one of these blanks, so lines that are
joined and split again are the same but for the blanks they end in.
-/

namespace OutlineLint.Text

/-- All characters of the text are blanks. -/
def AllBlank (text : Text) : Prop :=
  ∀ character ∈ text, isBlank character = true

theorem exists_trailing (text : Text) :
    ∃ blanks : Text, AllBlank blanks ∧ text = trimRight text ++ blanks :=
  ⟨text.rtakeWhile isBlank, fun _ member => List.mem_rtakeWhile_imp member,
    List.rdropWhile_append_rtakeWhile.symm⟩

theorem trimRight_append_of_allBlank
    {blanks : Text} (allBlank : AllBlank blanks) (text : Text) :
    trimRight (text ++ blanks) = trimRight text := by
  rw [trimRight, List.reverse_append,
    List.dropWhile_append_of_pos fun character member =>
      allBlank character (List.mem_reverse.mp member)]
  rfl

/-- Trimming on the right stops at the last visible character. -/
theorem trimRight_append_cons
    {character : Char} (visible : isBlank character = false)
    (before rest : Text) :
    trimRight (before ++ character :: rest) =
      before ++ character :: trimRight rest := by
  have stopped :
      (character :: rest).reverse.dropWhile isBlank =
        (character :: trimRight rest).reverse := by
    rw [← trimRight_cons visible, trimRight, List.reverse_reverse]
  rw [trimRight, List.reverse_append, List.dropWhile_append, stopped,
    if_neg (by simp), List.reverse_append, List.reverse_reverse,
    List.reverse_reverse]

theorem trim_trimRight (text : Text) : (trimRight text).trim = text.trim := by
  obtain ⟨blanks, allBlank, whole⟩ := exists_trailing text
  have noneLeft : blanks.dropWhile isBlank = [] :=
    List.dropWhile_eq_nil_iff.mpr allBlank
  conv_rhs => rw [whole]
  rw [trim, trim, trimLeft, trimLeft, List.dropWhile_append]
  split
  · next allDropped =>
      rw [List.isEmpty_iff] at allDropped
      rw [allDropped, noneLeft]
  · rw [trimRight_append_of_allBlank allBlank]

theorem firstWord_trimRight (text : Text) :
    (trimRight text).firstWord = text.firstWord := by
  rw [← firstWord_trim, trim_trimRight, firstWord_trim]

/-! ## Lines -/

theorem trimRight_dropReturn (line : Text) :
    trimRight (dropReturn line) = trimRight line := by
  unfold dropReturn
  split
  · next endsInReturn =>
      obtain ⟨front, rfl⟩ := List.getLast?_eq_some_iff.mp endsInReturn
      have returnBlank : AllBlank ['\r'] := by
        intro character member
        rw [List.mem_singleton.mp member]
        decide
      rw [List.dropLast_concat, trimRight_append_of_allBlank returnBlank]
  · rfl

/-- Joined lines are the lines of the text that they make. -/
theorem lines_intercalate
    {joined : List Text} (unbroken : ∀ line ∈ joined, '\n' ∉ line)
    (nonempty : joined ≠ []) :
    lines (['\n'].intercalate joined) = joined.map dropReturn := by
  rw [lines, List.splitOn_intercalate '\n' unbroken nonempty]

theorem map_trimRight_lines_intercalate
    {joined : List Text} (unbroken : ∀ line ∈ joined, '\n' ∉ line)
    (nonempty : joined ≠ []) :
    (lines (['\n'].intercalate joined)).map trimRight =
      joined.map trimRight := by
  rw [lines_intercalate unbroken nonempty, List.map_map]
  exact List.map_congr_left fun line _ => trimRight_dropReturn line

end OutlineLint.Text
