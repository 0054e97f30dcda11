import OutlineLint.Proofs.Balance.Scan

/-!
# Where the problem of a text lies

A bracket finding is explained by the text around its positions: a text that
balances or is viable before, and a balanced text between or after.  The scan
keeps the explanation ready.  What it has read splits at the openers of the
pending brackets, each at the position noted for it, and balances between them.
-/

namespace OutlineLint

/--
The text splits at the character, which is found there by its row and column.
-/
structure Text.SplitsAt
    (text before : Text) (character : Char) (rest : Text)
    (position : Position) : Prop where
  whole : text = before ++ character :: rest
  position_eq : position = Position.after before
  stands : text.StandsAt character position

/-- The finding points to the first bracket problem of the text of the file. -/
inductive Finding.Pinpoints (file text : Text) : Finding → Prop where
  /-- The closing bracket follows a balanced text. -/
  | unmatched {bracket : Bracket} {before rest : Text} {position : Position}
      (closes : text.SplitsAt before bracket.closer rest position)
      (balanced : Balanced before)
      (viable : Viable before)
      (stuck : ¬ Viable (before ++ [bracket.closer])) :
      Pinpoints file text
        ⟨file, position, .balance .unmatched [bracket.closer] none none⟩
  /--
  The closing bracket follows an opening one of another
  kind and a balanced text.
  -/
  | mismatched {bracket opened : Bracket} {before between rest : Text}
      {openedAt position : Position}
      (opens :
        text.SplitsAt before opened.opener
          (between ++ bracket.closer :: rest) openedAt)
      (closes :
        text.SplitsAt (before ++ opened.opener :: between) bracket.closer rest
          position)
      (order : openedAt.Precedes position)
      (viableOutside : Viable before)
      (balanced : Balanced between)
      (differs : bracket.closer ≠ opened.closer)
      (viable : Viable (before ++ opened.opener :: between))
      (stuck :
        ¬ Viable (before ++ opened.opener :: between ++ [bracket.closer])) :
      Pinpoints file text
        ⟨file, position,
          .balance .mismatched [bracket.closer] (some openedAt)
            (some [opened.closer])⟩
  /-- The opening bracket is followed by a balanced text up to the end. -/
  | unclosed {opened : Bracket} {before rest : Text} {openedAt : Position}
      (opens : text.SplitsAt before opened.opener rest openedAt)
      (viableOutside : Viable before)
      (balanced : Balanced rest)
      (viable : Viable text)
      (unbalanced : ¬ Balanced text) :
      Pinpoints file text
        ⟨file, openedAt, .balance .unclosed [opened.opener] none none⟩

namespace Balance

/-- The text read so far leaves these brackets open, the innermost first. -/
def Reached : List OpenBracket → Text → Prop
  | [], read => Balanced read
  | opened :: outer, read =>
      ∃ before inner : Text,
        read = before ++ opened.bracket.opener :: inner ∧
          opened.position = Position.after before ∧ Reached outer before ∧
          Balanced inner

/-! ## One step of the scan -/

theorem Reached.append_balanced
    {pending : List OpenBracket} {read : Text} (reached : Reached pending read)
    {more : Text} (balanced : Balanced more) :
    Reached pending (read ++ more) := by
  cases pending with
  | nil => exact Balanced.append reached balanced
  | cons opened outer =>
      obtain ⟨before, inner, rfl, positionEq, outerReached, innerBalanced⟩ :=
        reached
      exact ⟨before, inner ++ more, by simp, positionEq, outerReached,
        innerBalanced.append balanced⟩

theorem Reached.opener
    {pending : List OpenBracket} {read : Text} (reached : Reached pending read)
    (bracket : Bracket) :
    Reached (⟨bracket, Position.after read⟩ :: pending)
      (read ++ [bracket.opener]) :=
  ⟨read, [], rfl, rfl, reached, Balanced.empty⟩

theorem Reached.closer
    {opened : OpenBracket} {outer : List OpenBracket} {read : Text}
    (reached : Reached (opened :: outer) read) :
    Reached outer (read ++ [opened.bracket.closer]) := by
  obtain ⟨before, inner, rfl, _, outerReached, innerBalanced⟩ := reached
  have regrouped :
      before ++ opened.bracket.opener :: inner ++ [opened.bracket.closer] =
        before ++ opened.bracket.opener ::
          (inner ++ opened.bracket.closer :: []) := by
    simp
  rw [regrouped]
  exact outerReached.append_balanced
    (Balanced.enclosed opened.bracket innerBalanced Balanced.empty)

/-! ## What may follow -/

/--
The text read so far is completed exactly by what closes the pending brackets.
-/
theorem Reached.balanced_append_iff
    {pending : List OpenBracket} {read : Text} (reached : Reached pending read)
    (rest : Text) :
    Balanced (read ++ rest) ↔
      Closes (pending.map OpenBracket.bracket) rest := by
  induction pending generalizing read rest with
  | nil => exact closes_append_iff reached [] rest
  | cons opened outer ih =>
      obtain ⟨before, inner, rfl, _, outerReached, innerBalanced⟩ := reached
      have regrouped :
          before ++ opened.bracket.opener :: inner ++ rest =
            before ++ opened.bracket.opener :: (inner ++ rest) := by
        simp
      rw [regrouped, ih outerReached, closes_opener_cons_iff,
        closes_append_iff innerBalanced, List.map_cons]

theorem Reached.viable
    {pending : List OpenBracket} {read : Text}
    (reached : Reached pending read) :
    Viable read :=
  ⟨(pending.map OpenBracket.bracket).map Bracket.closer,
    (reached.balanced_append_iff _).mpr (closes_map_closer _)⟩

/--
A closing bracket that the innermost open one does not allow cannot be repaired.
-/
theorem Reached.not_viable_closer
    {pending : List OpenBracket} {read : Text} (reached : Reached pending read)
    (bracket : Bracket)
    (refused : ∀ opened ∈ pending.head?, opened.bracket ≠ bracket) :
    ¬ Viable (read ++ [bracket.closer]) := by
  rintro ⟨continuation, balanced⟩
  rw [List.append_assoc, reached.balanced_append_iff,
    List.singleton_append] at balanced
  cases pending with
  | nil => exact not_closes_nil_closer_cons bracket continuation balanced
  | cons opened outer =>
      rw [List.map_cons, closes_closer_cons_iff] at balanced
      exact refused opened rfl balanced.1

/-! ## The whole scan -/

theorem splitsAt_bracket
    {text before rest : Text} {character : Char}
    (whole : text = before ++ character :: rest)
    (isBracket : character ∈ bracketCharacters) :
    text.SplitsAt before character rest (Position.after before) where
  whole := whole
  position_eq := rfl
  stands := by
    have walked :
        (character, Position.after before) ∈
          (text.walk Position.start).filter (isBracketCharacter ·.1) := by
      rw [whole, List.mem_filter]
      exact ⟨Text.mem_walk_of_append Position.start before character rest,
        isBracketCharacter_of_mem character isBracket⟩
    rw [← Text.filter_located isBracketCharacter (by decide)
      (by decide)] at walked
    exact (Text.mem_located_iff text character _).mp
      (List.mem_filter.mp walked).1

/--
Whatever the scan reports about the rest of a text points to the first problem
of the whole text.
-/
theorem scan_pinpoints
    (file : Text) {pending : List OpenBracket} {read : Text}
    (reached : Reached pending read) (rest : Text) {problem : BracketProblem}
    (found : scan pending (rest.walk (Position.after read)) = some problem) :
    (problem.finding file).Pinpoints file (read ++ rest) := by
  -- The induction moves characters from the rest to the text read so far.
  induction rest generalizing pending read with
  | nil =>
      cases pending with
      | nil => cases found
      | cons opened outer =>
          have unbalanced : ¬ Balanced (read ++ []) := by
            rw [reached.balanced_append_iff, closes_nil_iff]
            exact List.cons_ne_nil _ _
          have viable : Viable (read ++ []) := by
            rw [List.append_nil]
            exact reached.viable
          cases found
          obtain ⟨before, inner, rfl, positionEq, outerReached,
              innerBalanced⟩ :=
            reached
          rw [BracketProblem.finding, positionEq]
          exact .unclosed
            (splitsAt_bracket (by simp) opened.bracket.opener_mem)
            outerReached.viable innerBalanced viable unbalanced
  | cons character rest ih =>
      have moved : read ++ character :: rest = read ++ [character] ++ rest := by
        simp
      have nextPosition :
          (Position.after read).next character =
            Position.after (read ++ [character]) := by
        rw [Position.after, Position.after, List.foldl_append]
        rfl
      rw [Text.walk, nextPosition] at found
      rcases Bracket.character_cases character
        with ⟨bracket, rfl⟩ | ⟨bracket, rfl⟩ | plain
      · rw [scan_opener_cons] at found
        rw [moved]
        exact ih (reached.opener bracket) found
      · cases pending with
        | nil =>
            rw [scan_nil_closer_cons] at found
            cases found
            exact .unmatched
              (splitsAt_bracket rfl bracket.closer_mem)
              reached reached.viable
                (reached.not_viable_closer bracket (by simp))
        | cons opened outer =>
            rw [scan_cons_closer_cons] at found
            by_cases same : opened.bracket = bracket
            · rw [if_pos same] at found
              rw [moved]
              subst same
              exact ih reached.closer found
            · rw [if_neg same] at found
              cases found
              have stuck :=
                reached.not_viable_closer bracket (by simpa using same)
              have viable := reached.viable
              obtain ⟨before, inner, rfl, positionEq, outerReached,
                  innerBalanced⟩ :=
                reached
              rw [BracketProblem.finding, positionEq]
              exact .mismatched
                (splitsAt_bracket (by simp) opened.bracket.opener_mem)
                (splitsAt_bracket rfl bracket.closer_mem)
                (Position.after_precedes before opened.bracket.opener inner)
                outerReached.viable innerBalanced
                (fun equal => same (Bracket.closer_injective equal).symm)
                viable stuck
      · rw [scan_plain_cons pending plain] at found
        rw [moved]
        exact ih
          (reached.append_balanced (Balanced.plain plain Balanced.empty)) found

/-- A bracket finding points to the first problem of the text. -/
theorem finding?_pinpoints
    (file text : Text) (finding : Finding)
    (found : finding? file text = some finding) :
    finding.Pinpoints file text := by
  obtain ⟨problem, isProblem, rfl⟩ := Option.map_eq_some_iff.mp found
  rw [problem?_eq_scan_walk] at isProblem
  have nothingRead : Reached [] [] := Balanced.empty
  exact scan_pinpoints file nothingRead text isProblem

/-- A mismatch that is opened on one line and closed on the next. -/
theorem pinpoints_mismatch_across_lines :
    finding? ['f'] "a (b\r\n  c] ".toList =
        some ⟨['f'], ⟨2, 4⟩,
          .balance .mismatched [']'] (some ⟨1, 3⟩) (some [')'])⟩ ∧
      Finding.Pinpoints ['f'] "a (b\r\n  c] ".toList
        ⟨['f'], ⟨2, 4⟩,
          .balance .mismatched [']'] (some ⟨1, 3⟩) (some [')'])⟩ := by
  have found :
      finding? ['f'] "a (b\r\n  c] ".toList =
        some ⟨['f'], ⟨2, 4⟩,
          .balance .mismatched [']'] (some ⟨1, 3⟩) (some [')'])⟩ := by
    decide
  exact ⟨found, finding?_pinpoints _ _ _ found⟩

end Balance

end OutlineLint
