import OutlineLint.Bracket
import OutlineLint.Text.Basic

/-!
# The language of balanced texts

`Balanced` is the language of texts whose brackets balance, as a grammar.
`Closes` describes what may still follow while brackets are open, the innermost
first: a balanced text up to the closing bracket, and then what closes the
brackets around it.  One equation for each kind of first character makes the
grammar readable from left to right.

A text is viable if it can be continued to a balanced one.
-/

namespace OutlineLint

def bracketCharacters : Text :=
  ['(', ')', '{', '}', '[', ']']

/-- The texts whose brackets balance. -/
inductive Balanced : Text → Prop where
  | empty : Balanced []
  | plain {character : Char} {rest : Text} :
      character ∉ bracketCharacters → Balanced rest →
        Balanced (character :: rest)
  | enclosed (bracket : Bracket) {inner rest : Text} :
      Balanced inner → Balanced rest →
        Balanced (bracket.opener :: (inner ++ bracket.closer :: rest))

/-- The text can be continued to a balanced one. -/
def Viable (text : Text) : Prop :=
  ∃ continuation : Text, Balanced (text ++ continuation)

/--
The text closes the pending brackets, the innermost
first, and balances otherwise.
-/
def Closes : List Bracket → Text → Prop
  | [], text => Balanced text
  | bracket :: outer, text =>
      ∃ inner rest : Text,
        text = inner ++ bracket.closer :: rest ∧ Balanced inner ∧
          Closes outer rest

/-! ## Bracket characters -/

namespace Bracket

theorem opener_mem (bracket : Bracket) :
    bracket.opener ∈ bracketCharacters := by
  cases bracket <;> decide

theorem closer_mem (bracket : Bracket) :
    bracket.closer ∈ bracketCharacters := by
  cases bracket <;> decide

theorem opener_ne_closer (first second : Bracket) :
    first.opener ≠ second.closer := by
  cases first <;> cases second <;> decide

theorem opener_injective
    {first second : Bracket} (same : first.opener = second.opener) :
    first = second := by
  simpa using congrArg ofOpener? same

theorem closer_injective
    {first second : Bracket} (same : first.closer = second.closer) :
    first = second := by
  simpa using congrArg ofCloser? same

theorem ofOpener?_eq_none
    {character : Char} (plain : character ∉ bracketCharacters) :
    ofOpener? character = none := by
  rw [Option.eq_none_iff_forall_not_mem]
  intro bracket opens
  rw [(ofOpener?_eq_some_iff character bracket).mp opens] at plain
  exact plain bracket.opener_mem

theorem ofCloser?_eq_none
    {character : Char} (plain : character ∉ bracketCharacters) :
    ofCloser? character = none := by
  rw [Option.eq_none_iff_forall_not_mem]
  intro bracket closes
  rw [(ofCloser?_eq_some_iff character bracket).mp closes] at plain
  exact plain bracket.closer_mem

/-- A character opens a bracket, closes one, or is plain. -/
theorem character_cases (character : Char) :
    (∃ bracket : Bracket, character = bracket.opener) ∨
      (∃ bracket : Bracket, character = bracket.closer) ∨
        character ∉ bracketCharacters := by
  by_cases member : character ∈ bracketCharacters
  · simp only [bracketCharacters, List.mem_cons, List.not_mem_nil,
      or_false] at member
    rcases member with rfl | rfl | rfl | rfl | rfl | rfl
    · exact Or.inl ⟨round, rfl⟩
    · exact Or.inr (Or.inl ⟨round, rfl⟩)
    · exact Or.inl ⟨curly, rfl⟩
    · exact Or.inr (Or.inl ⟨curly, rfl⟩)
    · exact Or.inl ⟨square, rfl⟩
    · exact Or.inr (Or.inl ⟨square, rfl⟩)
  · exact Or.inr (Or.inr member)

end Bracket

/-! ## The first character of a balanced text -/

theorem balanced_plain_cons_iff
    {character : Char} (plain : character ∉ bracketCharacters) (rest : Text) :
    Balanced (character :: rest) ↔ Balanced rest := by
  constructor
  · intro balanced
    cases balanced with
    | plain _ restBalanced => exact restBalanced
    | enclosed bracket _ _ => exact absurd bracket.opener_mem plain
  · exact Balanced.plain plain

theorem balanced_opener_cons_iff (bracket : Bracket) (rest : Text) :
    Balanced (bracket.opener :: rest) ↔ Closes [bracket] rest := by
  constructor
  · intro balanced
    generalize whole : bracket.opener :: rest = text at balanced
    cases balanced with
    | empty => cases whole
    | plain notBracket _ =>
        cases whole
        exact absurd bracket.opener_mem notBracket
    | @enclosed other inner after innerBalanced afterBalanced =>
        rw [List.cons.injEq] at whole
        obtain ⟨opensSame, rfl⟩ := whole
        cases Bracket.opener_injective opensSame
        exact ⟨inner, after, rfl, innerBalanced, afterBalanced⟩
  · rintro ⟨inner, after, rfl, innerBalanced, afterBalanced⟩
    exact Balanced.enclosed bracket innerBalanced afterBalanced

theorem not_balanced_closer_cons (bracket : Bracket) (rest : Text) :
    ¬ Balanced (bracket.closer :: rest) := by
  intro balanced
  generalize whole : bracket.closer :: rest = text at balanced
  cases balanced with
  | empty => cases whole
  | plain notBracket _ =>
      cases whole
      exact notBracket bracket.closer_mem
  | enclosed other _ _ =>
      rw [List.cons.injEq] at whole
      exact Bracket.opener_ne_closer other bracket whole.1.symm

/-! ## The first character of a closing text -/

theorem closes_nil_iff (pending : List Bracket) :
    Closes pending [] ↔ pending = [] := by
  cases pending with
  | nil => simp [Closes, Balanced.empty]
  | cons bracket outer => simp [Closes]

theorem closes_plain_cons_iff
    (pending : List Bracket)
    {character : Char} (plain : character ∉ bracketCharacters) (rest : Text) :
    Closes pending (character :: rest) ↔ Closes pending rest := by
  cases pending with
  | nil => exact balanced_plain_cons_iff plain rest
  | cons bracket outer =>
      constructor
      · rintro ⟨inner, after, whole, innerBalanced, afterCloses⟩
        cases inner with
        | nil =>
            rw [List.nil_append, List.cons.injEq] at whole
            exact absurd (whole.1 ▸ bracket.closer_mem) plain
        | cons head tail =>
            rw [List.cons_append, List.cons.injEq] at whole
            obtain ⟨rfl, rfl⟩ := whole
            exact ⟨tail, after, rfl,
              (balanced_plain_cons_iff plain tail).mp innerBalanced,
              afterCloses⟩
      · rintro ⟨inner, after, rfl, innerBalanced, afterCloses⟩
        exact ⟨character :: inner, after, rfl,
          Balanced.plain plain innerBalanced, afterCloses⟩

theorem closes_opener_cons_iff
    (pending : List Bracket) (bracket : Bracket) (rest : Text) :
    Closes pending (bracket.opener :: rest) ↔
      Closes (bracket :: pending) rest := by
  cases pending with
  | nil => exact balanced_opener_cons_iff bracket rest
  | cons outermost outer =>
      constructor
      · rintro ⟨inner, after, whole, innerBalanced, afterCloses⟩
        cases inner with
        | nil =>
            rw [List.nil_append, List.cons.injEq] at whole
            exact absurd whole.1 (Bracket.opener_ne_closer bracket outermost)
        | cons head tail =>
            rw [List.cons_append, List.cons.injEq] at whole
            obtain ⟨rfl, rfl⟩ := whole
            obtain ⟨enclosed, between, rfl, enclosedBalanced,
                betweenBalanced⟩ :=
              (balanced_opener_cons_iff bracket tail).mp innerBalanced
            exact ⟨enclosed, between ++ outermost.closer :: after, by simp,
              enclosedBalanced, between, after, rfl, betweenBalanced,
              afterCloses⟩
      · rintro ⟨enclosed, _, rfl, enclosedBalanced,
          between, after, rfl, betweenBalanced, afterCloses⟩
        exact ⟨bracket.opener :: (enclosed ++ bracket.closer :: between), after,
          by simp,
          Balanced.enclosed bracket enclosedBalanced betweenBalanced,
          afterCloses⟩

theorem not_closes_nil_closer_cons (bracket : Bracket) (rest : Text) :
    ¬ Closes [] (bracket.closer :: rest) :=
  not_balanced_closer_cons bracket rest

theorem closes_closer_cons_iff
    (innermost : Bracket) (outer : List Bracket) (bracket : Bracket)
    (rest : Text) :
    Closes (innermost :: outer) (bracket.closer :: rest) ↔
      innermost = bracket ∧ Closes outer rest := by
  constructor
  · rintro ⟨inner, after, whole, innerBalanced, afterCloses⟩
    cases inner with
    | nil =>
        rw [List.nil_append, List.cons.injEq] at whole
        obtain ⟨closesSame, rfl⟩ := whole
        exact ⟨(Bracket.closer_injective closesSame).symm, afterCloses⟩
    | cons head tail =>
        rw [List.cons_append, List.cons.injEq] at whole
        obtain ⟨rfl, _⟩ := whole
        exact absurd innerBalanced (not_balanced_closer_cons bracket tail)
  · rintro ⟨rfl, restCloses⟩
    exact ⟨[], rest, rfl, Balanced.empty, restCloses⟩

/-! ## Parts of a closing text -/

/-- A balanced beginning changes nothing about what is still to be closed. -/
theorem closes_append_iff
    {read : Text} (balanced : Balanced read) (pending : List Bracket)
    (rest : Text) :
    Closes pending (read ++ rest) ↔ Closes pending rest := by
  induction balanced generalizing pending rest with
  | empty => rfl
  | plain notBracket _ ih =>
      rw [List.cons_append, closes_plain_cons_iff pending notBracket]
      exact ih pending rest
  | @enclosed bracket inner after _ _ innerIh afterIh =>
      have regrouped :
          (bracket.opener :: (inner ++ bracket.closer :: after)) ++ rest =
            bracket.opener ::
              (inner ++ (bracket.closer :: (after ++ rest))) := by
        simp
      rw [regrouped, closes_opener_cons_iff, innerIh, closes_closer_cons_iff]
      simpa using afterIh pending rest

theorem Balanced.append {first second : Text} (firstBalanced : Balanced first)
    (secondBalanced : Balanced second) : Balanced (first ++ second) :=
  (closes_append_iff firstBalanced [] second).mpr secondBalanced

theorem closes_map_closer (pending : List Bracket) :
    Closes pending (pending.map Bracket.closer) := by
  induction pending with
  | nil => exact Balanced.empty
  | cons bracket outer ih =>
      exact ⟨[], outer.map Bracket.closer, rfl, Balanced.empty, ih⟩

/-- Leaving out characters that are no brackets changes nothing. -/
theorem closes_filter_iff
    (keep : Char → Bool)
    (keepsBrackets : ∀ character ∈ bracketCharacters, keep character = true)
    (pending : List Bracket) (text : Text) :
    Closes pending (text.filter keep) ↔ Closes pending text := by
  induction text generalizing pending with
  | nil => rfl
  | cons character rest ih =>
      rcases Bracket.character_cases character with
        ⟨bracket, rfl⟩ | ⟨bracket, rfl⟩ | plain
      · rw [List.filter_cons_of_pos (keepsBrackets _ bracket.opener_mem),
          closes_opener_cons_iff, closes_opener_cons_iff, ih]
      · rw [List.filter_cons_of_pos (keepsBrackets _ bracket.closer_mem)]
        cases pending with
        | nil => simp [not_closes_nil_closer_cons]
        | cons innermost outer =>
            rw [closes_closer_cons_iff, closes_closer_cons_iff, ih]
      · rw [closes_plain_cons_iff pending plain]
        by_cases kept : keep character = true
        · rw [List.filter_cons_of_pos kept, closes_plain_cons_iff pending plain,
            ih]
        · rw [List.filter_cons_of_neg kept, ih]

theorem balanced_filter_iff
    (keep : Char → Bool)
    (keepsBrackets : ∀ character ∈ bracketCharacters, keep character = true)
    (text : Text) :
    Balanced (text.filter keep) ↔ Balanced text :=
  closes_filter_iff keep keepsBrackets [] text

end OutlineLint
