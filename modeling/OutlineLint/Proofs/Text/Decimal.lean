import OutlineLint.Text.Basic

/-!
# Integers in a text

An integer is known by the text in which it is written.  It is known as well
when the text goes on, if the next character is one in which no integer is
written.  So the numbers between other characters can be read back.
-/

namespace OutlineLint.Text

/-- A character in which integers are written. -/
def isNumeral (character : Char) : Bool :=
  character.isDigit || character = '-'

theorem isDigit_of_mem_ofNat
    {value : Nat} {character : Char} (member : character ∈ ofNat value) :
    character.isDigit = true :=
  Nat.isDigit_of_mem_toDigits (by decide) (by decide) member

theorem isNumeral_of_mem_ofInt
    {value : Int} {character : Char} (member : character ∈ ofInt value) :
    isNumeral character = true := by
  rw [isNumeral, Bool.or_eq_true, decide_eq_true_eq]
  cases value with
  | ofNat value => exact Or.inl (isDigit_of_mem_ofNat member)
  | negSucc value =>
      rcases List.mem_cons.mp member with rfl | digit
      · exact Or.inr rfl
      · exact Or.inl (isDigit_of_mem_ofNat digit)

theorem ofNat_injective
    {first second : Nat} (same : ofNat first = ofNat second) :
    first = second := by
  calc
    first = Nat.ofDigitChars 10 (ofNat first) 0 :=
      Nat.ofDigitChars_ten_toDigits.symm
    _ = Nat.ofDigitChars 10 (ofNat second) 0 := by rw [same]
    _ = second := Nat.ofDigitChars_ten_toDigits

theorem cons_minus_ne_ofNat (rest : Text) (value : Nat) :
    '-' :: rest ≠ ofNat value := by
  intro same
  have member : '-' ∈ ofNat value := by
    rw [← same]
    exact List.mem_cons_self
  cases isDigit_of_mem_ofNat member

theorem ofInt_injective
    {first second : Int} (same : ofInt first = ofInt second) :
    first = second := by
  cases first with
  | ofNat first =>
      cases second with
      | ofNat second => rw [ofNat_injective same]
      | negSucc second => exact absurd same.symm (cons_minus_ne_ofNat _ first)
  | negSucc first =>
      cases second with
      | ofNat second => exact absurd same (cons_minus_ne_ofNat _ second)
      | negSucc second =>
          have digits : ofNat (first + 1) = ofNat (second + 1) :=
            List.tail_eq_of_cons_eq same
          rw [Nat.succ.inj (ofNat_injective digits)]

/--
Where a run of characters ends is decided by the first
character that is not of the run.
-/
theorem append_cons_inj
    {inRun : Char → Bool} {first second rest others : Text} {next other : Char}
    (firstInRun : ∀ character ∈ first, inRun character = true)
    (secondInRun : ∀ character ∈ second, inRun character = true)
    (nextEnds : inRun next = false) (otherEnds : inRun other = false)
    (same : first ++ next :: rest = second ++ other :: others) :
    first = second ∧ next = other ∧ rest = others := by
  have runOf {run : Text} {ending : Char} (rest : Text)
      (allIn : ∀ character ∈ run, inRun character = true)
      (ends : inRun ending = false) :
      (run ++ ending :: rest).takeWhile inRun = run := by
    rw [List.takeWhile_append_of_pos allIn,
      List.takeWhile_cons_of_neg (by simp [ends]), List.append_nil]
  have sameRun : first = second := by
    rw [← runOf rest firstInRun nextEnds, same,
      runOf others secondInRun otherEnds]
  subst sameRun
  have sameRest := List.append_cancel_left same
  rw [List.cons.injEq] at sameRest
  exact ⟨rfl, sameRest⟩

/-- An integer is known by its digits up to the next character. -/
theorem ofInt_append_cons_inj
    {first second : Int} {rest others : Text} {next other : Char}
    (nextEnds : isNumeral next = false) (otherEnds : isNumeral other = false)
    (same : ofInt first ++ next :: rest = ofInt second ++ other :: others) :
    first = second ∧ next = other ∧ rest = others := by
  obtain ⟨digits, following⟩ :=
    append_cons_inj (fun _ => isNumeral_of_mem_ofInt)
      (fun _ => isNumeral_of_mem_ofInt)
      nextEnds otherEnds same
  exact ⟨ofInt_injective digits, following⟩

end OutlineLint.Text
