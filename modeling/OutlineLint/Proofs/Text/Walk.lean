import OutlineLint.Text.Lines

/-!
# Positions of a walk through a text

A text can be walked through with its line endings, a line feed leading to the
next row and any other character to the next column.  The position of a
character then depends on the text before it only.  The positions that
`located` gives to the characters of the lines are the same, and a character
that a walk meets inside a line is found there by its row and column.
-/

namespace OutlineLint

namespace Position

def start : Position :=
  ⟨1, 1⟩

def next (position : Position) (character : Char) : Position :=
  if character = '\n' then ⟨position.row + 1, 1⟩
    else ⟨position.row, position.col + 1⟩

/-- The position of the character that follows a text. -/
def after (before : Text) : Position :=
  before.foldl next start

/-- The reading order of positions. -/
def Precedes (first second : Position) : Prop :=
  first.row < second.row ∨ first.row = second.row ∧ first.col < second.col

theorem Precedes.trans {first second third : Position}
    (left : first.Precedes second) (right : second.Precedes third) :
    first.Precedes third := by
  unfold Precedes at *
  omega

theorem precedes_next (position : Position) (character : Char) :
    position.Precedes (position.next character) := by
  unfold next Precedes
  split
  · exact Or.inl (Int.lt_succ position.row)
  · exact Or.inr ⟨rfl, Int.lt_succ position.col⟩

theorem precedes_foldl_next
    (position : Position) (character : Char) (rest : Text) :
    position.Precedes ((character :: rest).foldl next position) := by
  induction rest generalizing position character with
  | nil => exact precedes_next position character
  | cons following rest ih =>
      exact (precedes_next position character).trans
        (ih (position.next character) following)

/-- A character stands before everything that follows it. -/
theorem after_precedes (before : Text) (character : Char) (between : Text) :
    (after before).Precedes (after (before ++ character :: between)) := by
  rw [after, after, List.foldl_append]
  exact precedes_foldl_next _ character between

end Position

namespace Text

/-- The characters of a text, line endings included, each with its position. -/
def walk (position : Position) : Text → List (Char × Position)
  | [] => []
  | character :: rest =>
      (character, position) :: walk (position.next character) rest

/--
The character stands in the lines of the text at the given row and column.
-/
def StandsAt (text : Text) (character : Char) (position : Position) : Prop :=
  ∃ (row col : Nat) (content : Text),
    position = ⟨row + 1, col + 1⟩ ∧ text.lines[row]? = some content ∧
      content[col]? = some character

theorem walk_map_fst (position : Position) (text : Text) :
    (walk position text).map Prod.fst = text := by
  induction text generalizing position with
  | nil => rfl
  | cons character rest ih => rw [walk, List.map_cons, ih]

theorem mem_walk_of_append
    (position : Position) (before : Text) (character : Char) (rest : Text) :
    (character, before.foldl Position.next position) ∈
      walk position (before ++ character :: rest) := by
  induction before generalizing position with
  | nil => exact List.mem_cons_self
  | cons head tail ih => exact List.mem_cons_of_mem _ (ih (position.next head))

/-! ## The lines of a walk -/

/-- The characters of a line from a column on, each with its position. -/
def locatedFrom (row col : Nat) (line : Text) : List (Char × Position) :=
  (line.zipIdx col).map fun (character, col) => (character, ⟨row, col⟩)

theorem locatedFrom_one (row : Nat) (line : Text) :
    locatedFrom row 1 line = locatedIn row line :=
  rfl

theorem locatedFrom_cons (row col : Nat) (character : Char) (line : Text) :
    locatedFrom row col (character :: line) =
      (character, ⟨row, col⟩) :: locatedFrom row (col + 1) line := by
  simp [locatedFrom]

theorem locatedFrom_append (row col : Nat) (first second : Text) :
    locatedFrom row col (first ++ second) =
      locatedFrom row col first ++
        locatedFrom row (first.length + col) second := by
  rw [locatedFrom, List.zipIdx_append, List.map_append, Nat.add_comm]
  rfl

theorem mem_locatedIn_iff
    (row : Nat) (content : Text) (character : Char) (position : Position) :
    (character, position) ∈ locatedIn row content ↔
      ∃ col : Nat, content[col]? = some character ∧
        position = ⟨row, col + 1⟩ := by
  simp only [locatedIn, List.mem_map, Prod.exists, Prod.mk.injEq,
    List.mem_zipIdx_iff_le_and_getElem?_sub]
  constructor
  · rintro ⟨_, col, ⟨low, found⟩, rfl, rfl⟩
    refine ⟨col - 1, found, ?_⟩
    simp only [Position.mk.injEq, true_and]
    omega
  · rintro ⟨col, found, rfl⟩
    exact ⟨character, col + 1, ⟨by omega, by simpa using found⟩, rfl, by simp⟩

/-- A located character is found by its row and column in the lines. -/
theorem mem_located_iff (text : Text) (character : Char) (position : Position) :
    (character, position) ∈ text.located ↔
      text.StandsAt character position := by
  simp only [located, numberedLines, List.mem_flatMap, Prod.exists,
    mem_locatedIn_iff, List.mem_zipIdx_iff_le_and_getElem?_sub, StandsAt]
  constructor
  · rintro ⟨line, row, ⟨low, lineFound⟩, col, found, rfl⟩
    refine ⟨row - 1, col, line, ?_, lineFound, found⟩
    simp only [Position.mk.injEq, and_true]
    omega
  · rintro ⟨row, col, line, rfl, lineFound, found⟩
    exact
      ⟨line, row + 1, ⟨by omega, by simpa using lineFound⟩, col, found, by simp⟩

/--
Splitting at line feeds and numbering the pieces gives the positions of a walk.
-/
theorem flatMap_splitOn_eq_filter_walk
    (row col : Nat) (text first : Text) (others : List Text)
    (split : text.splitOn '\n' = first :: others) :
    locatedFrom row col first ++
        (others.zipIdx (row + 1)).flatMap
          (fun (line, row) => locatedIn row line) =
      (walk ⟨row, col⟩ text).filter (·.1 ≠ '\n') := by
  induction text generalizing row col first others with
  | nil =>
      rw [List.splitOn_nil, List.cons.injEq] at split
      obtain ⟨rfl, rfl⟩ := split
      rfl
  | cons character rest ih =>
      obtain ⟨restFirst, restOthers, restSplit⟩ :=
        List.exists_cons_of_ne_nil (List.splitOn_ne_nil '\n' rest)
      rw [List.splitOn_cons_eq_if_modifyHead, restSplit] at split
      by_cases isFeed : character = '\n'
      · subst isFeed
        simp only [beq_self_eq_true, if_true, List.cons.injEq] at split
        obtain ⟨rfl, rfl⟩ := split
        have tail := ih (row + 1) 1 restFirst restOthers restSplit
        rw [locatedFrom_one] at tail
        simpa [walk, Position.next, locatedFrom] using tail
      · simp only [beq_iff_eq, isFeed, if_false, List.modifyHead_cons,
          List.cons.injEq] at split
        obtain ⟨rfl, rfl⟩ := split
        have tail := ih row (col + 1) restFirst restOthers restSplit
        rw [locatedFrom_cons, List.cons_append, tail]
        simp [walk, Position.next, isFeed]

/--
A kept character is not the carriage return that a line ending takes along.
-/
theorem filter_locatedIn_dropReturn
    (keep : Char → Bool) (dropsReturn : keep '\r' = false) (row : Nat)
    (line : Text) :
    (locatedIn row (dropReturn line)).filter (keep ·.1) =
      (locatedIn row line).filter (keep ·.1) := by
  unfold dropReturn
  split
  · next endsInReturn =>
      obtain ⟨front, rfl⟩ := List.getLast?_eq_some_iff.mp endsInReturn
      rw [List.dropLast_concat]
      simp [locatedIn, List.zipIdx_append, dropsReturn]
  · rfl

/-- The located characters that are no line ending are those of the walk. -/
theorem filter_located
    (keep : Char → Bool) (dropsReturn : keep '\r' = false)
    (dropsFeed : keep '\n' = false) (text : Text) :
    text.located.filter (keep ·.1) =
      (walk Position.start text).filter (keep ·.1) := by
  have perLine :
      text.located.filter (keep ·.1) =
        (((text.splitOn '\n').zipIdx 1).flatMap
          (fun (line, row) => locatedIn row line)).filter (keep ·.1) := by
    simp only [located, numberedLines, lines, List.zipIdx_map, List.flatMap_map,
      List.filter_flatMap, Prod.map, id]
    congr 1
    funext numbered
    exact filter_locatedIn_dropReturn keep dropsReturn numbered.2 numbered.1
  obtain ⟨first, others, split⟩ :=
    List.exists_cons_of_ne_nil (List.splitOn_ne_nil '\n' text)
  have joined := flatMap_splitOn_eq_filter_walk 1 1 text first others split
  rw [perLine, split, List.zipIdx_cons, List.flatMap_cons]
  change (locatedFrom 1 1 first ++ _).filter _ = _
  rw [joined, List.filter_filter]
  apply List.filter_congr
  rintro ⟨character, position⟩ _
  by_cases isFeed : character = '\n'
  · simp [isFeed, dropsFeed]
  · simp [isFeed]

end Text

end OutlineLint
