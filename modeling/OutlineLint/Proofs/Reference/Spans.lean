import OutlineLint.Reference

/-!
# Spans of a line

A span of a line stands in the line: between a `[` at its column and the next
`]`, with something in between.  What follows the last `]` of a line makes no
difference to its spans.

`Advances` says once what one more character can do: it opens a bracket, goes on
in one, closes one, or is passed over.
-/

namespace OutlineLint

/--
The line has the text at the column, between a `[` and the next `]` after it.
-/
def Text.HasSpan (line : Text) (span : Int × Text) : Prop :=
  ∃ before after : Text,
    line = before ++ '[' :: (span.2 ++ ']' :: after) ∧
      span.1 = before.length + 1 ∧ span.2 ≠ [] ∧ ']' ∉ span.2

namespace Reference

theorem forall_pending_none {property : Opening → Prop} :
    ∀ opened ∈ (none : Option Opening), property opened :=
  nofun

theorem forall_pending_some
    {property : Opening → Prop} {pending : Opening} (holds : property pending) :
    ∀ opened ∈ some pending, property opened := by
  intro opened same
  rwa [← Option.mem_some.mp same]

/-- The pending bracket stands in the part of the line that has been read. -/
def Opening.Pends (opening : Opening) (read : Text) : Prop :=
  ∃ before : Text,
    read = before ++ '[' :: opening.reversed.reverse ∧
      opening.col = before.length + 1 ∧ ']' ∉ opening.reversed

theorem Opening.pends_begin (read : Text) :
    Opening.Pends ⟨read.length + 1, []⟩ (read ++ ['[']) :=
  ⟨read, rfl, rfl, List.not_mem_nil⟩

theorem Opening.Pends.snoc
    {start : Int} {reversed read : Text}
    (pends : Opening.Pends ⟨start, reversed⟩ read)
    {character : Char} (notCloser : character ≠ ']') :
    Opening.Pends ⟨start, character :: reversed⟩ (read ++ [character]) := by
  obtain ⟨before, rfl, startEq, free⟩ := pends
  refine ⟨before, by simp, startEq, ?_⟩
  rw [List.mem_cons, not_or]
  exact ⟨notCloser.symm, free⟩

/-- A pending bracket makes a span when it is closed. -/
theorem Opening.Pends.hasSpan
    {start : Int} {reversed read : Text}
    (pends : Opening.Pends ⟨start, reversed⟩ read)
    (nonempty : reversed ≠ []) (rest : Text) :
    (read ++ ']' :: rest).HasSpan (start, reversed.reverse) := by
  obtain ⟨before, rfl, startEq, free⟩ := pends
  refine ⟨before, rest, by simp, startEq, by simpa using nonempty, ?_⟩
  rwa [List.mem_reverse]

/-! ## One more character -/

/--
The character at the column turns what is pending into `next`
and ends the spans `made`.
-/
inductive Advances (col : Int) :
    Option Opening → Char → Option Opening → List (Int × Text) → Prop where
  | passes {character : Char} (notOpener : character ≠ '[') :
      Advances col none character none []
  | opens : Advances col none '[' (some ⟨col, []⟩) []
  | continues {start : Int} {reversed : Text} {character : Char}
      (notCloser : character ≠ ']') :
      Advances col (some ⟨start, reversed⟩) character
        (some ⟨start, character :: reversed⟩) []
  | drops (start : Int) : Advances col (some ⟨start, []⟩) ']' none []
  | closes {start : Int} {reversed : Text} (nonempty : reversed ≠ []) :
      Advances col (some ⟨start, reversed⟩) ']' none [(start, reversed.reverse)]

theorem exists_advances
    (opening : Option Opening) (col : Int) (character : Char) (rest : Text) :
    ∃ (next : Option Opening) (made : List (Int × Text)),
      Advances col opening character next made ∧
        spans opening col (character :: rest) =
          made ++ spans next (col + 1) rest := by
  cases opening with
  | none =>
      by_cases isOpener : character = '['
      · subst isOpener
        exact ⟨_, _, .opens, rfl⟩
      · refine ⟨_, _, .passes isOpener, ?_⟩
        rw [spans, if_neg isOpener, List.nil_append]
  | some opened =>
      obtain ⟨start, reversed⟩ := opened
      by_cases isCloser : character = ']'
      · subst isCloser
        cases reversed with
        | nil => exact ⟨_, _, .drops start, rfl⟩
        | cons last earlier =>
            exact ⟨_, _, .closes (List.cons_ne_nil last earlier), rfl⟩
      · refine ⟨_, _, .continues isCloser, ?_⟩
        rw [spans, if_neg isCloser, List.nil_append]

namespace Advances

variable {opening next : Option Opening} {col : Int} {character : Char}
  {made : List (Int × Text)}

/-- What is pending stands in the part of the line that has been read. -/
theorem pends
    (advances : Advances col opening character next made) {read : Text}
    (pending : ∀ opened ∈ opening, opened.Pends read)
    (here : col = read.length + 1) :
    ∀ opened ∈ next, opened.Pends (read ++ [character]) := by
  cases advances with
  | passes _ | drops _ | closes _ => exact forall_pending_none
  | opens =>
      rw [here]
      exact forall_pending_some (Opening.pends_begin read)
  | continues notCloser =>
      exact forall_pending_some ((pending _ rfl).snoc notCloser)

theorem hasSpan
    (advances : Advances col opening character next made) {read : Text}
    (pending : ∀ opened ∈ opening, opened.Pends read) (rest : Text) :
    ∀ span ∈ made, (read ++ character :: rest).HasSpan span := by
  cases advances with
  | passes _ | opens | continues _ | drops _ => exact nofun
  | closes nonempty =>
      intro span member
      rw [List.mem_singleton.mp member]
      exact (pending _ rfl).hasSpan nonempty rest

end Advances

/-- The spans in the rest of a line stand in the line. -/
theorem hasSpan_of_mem_spans
    {read : Text} {opening : Option Opening} {col : Int}
    (pending : ∀ opened ∈ opening, opened.Pends read)
    (here : col = read.length + 1) (rest : Text) :
    ∀ span ∈ spans opening col rest, (read ++ rest).HasSpan span := by
  -- The induction moves characters from the rest to the
  -- part that has been read.
  induction rest generalizing read opening col with
  | nil => exact nofun
  | cons character rest ih =>
      obtain ⟨next, made, advances, spansEq⟩ :=
        exists_advances opening col character rest
      have further : col + 1 = (read ++ [character]).length + 1 := by
        rw [here, List.length_append, List.length_singleton]
        rfl
      rw [spansEq]
      intro span member
      rcases List.mem_append.mp member with isMade | later
      · exact advances.hasSpan pending rest span isMade
      · rw [List.append_cons]
        exact ih (advances.pends pending here) further span later

/-- The references on a line stand in the line, in the row that is given. -/
theorem hasSpan_of_mem_onLine
    {file line : Text} {row : Int} {reference : Reference}
    (member : reference ∈ onLine file row line) :
    reference.position.row = row ∧
      line.HasSpan (reference.position.col, reference.text) := by
  obtain ⟨span, isSpan, rfl⟩ := List.mem_map.mp member
  have nothingRead : ((1 : Int)) = ([] : Text).length + 1 := rfl
  exact
    ⟨rfl, hasSpan_of_mem_spans forall_pending_none nothingRead line span isSpan⟩

/-! ## The end of a line -/

theorem spans_eq_nil
    (opening : Option Opening) (col : Int) {rest : Text}
    (noCloser : ']' ∉ rest) :
    spans opening col rest = [] := by
  induction rest generalizing opening col with
  | nil => rfl
  | cons character rest ih =>
      rw [List.mem_cons, not_or] at noCloser
      obtain ⟨notCloser, restFree⟩ := noCloser
      cases opening with
      | none => rw [spans, ih _ _ restFree]
      | some opened => rw [spans, if_neg (Ne.symm notCloser), ih _ _ restFree]

theorem spans_append
    (opening : Option Opening) (col : Int) (text : Text) {rest : Text}
    (noCloser : ']' ∉ rest) :
    spans opening col (text ++ rest) = spans opening col text := by
  induction text generalizing opening col with
  | nil => exact spans_eq_nil opening col noCloser
  | cons character text ih =>
      rw [List.cons_append]
      cases opening with
      | none => rw [spans, spans, ih]
      | some opened =>
          rw [spans, spans]
          simp only [ih]

theorem onLine_append
    (file : Text) (row : Int) (line : Text) {rest : Text}
    (noCloser : ']' ∉ rest) :
    onLine file row (line ++ rest) = onLine file row line := by
  rw [onLine, spans_append none 1 line noCloser, onLine]

end Reference

end OutlineLint
