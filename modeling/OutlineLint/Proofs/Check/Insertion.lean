import OutlineLint.Proofs.Balance.Scan
import OutlineLint.Proofs.Check.Messages
import OutlineLint.Proofs.Check.Renumbering
import OutlineLint.Proofs.Reference.Spans
import OutlineLint.Proofs.Text.Trailing

/-!
# Inserting an ignored line

A line that holds no bracket and contributes nothing to the outline can be put
anywhere in a text: between a header and its repetition, inside a scope, or
inside a bracket that goes over several lines.  The findings are the same, with
the rows from the insertion on one higher.

Such a line is told by its shape.  It is empty, or it begins with a blank, but
not with two spaces, or four or more, before a visible character.
-/

namespace OutlineLint

open OutlineLine Text

/-- The row of a line once another line is put below the first of the lines. -/
def makeRoom (above : Nat) (row : Int) : Int :=
  if row ≤ above then row else row + 1

/-- The line is without brackets and has the shape of a line that is ignored. -/
structure Inert (line : Text) : Prop where
  unbroken : '\n' ∉ line
  bracketless : ∀ character ∈ bracketCharacters, character ∉ line
  shape :
    dropReturn line = [] ∨
      (∃ (first : Char) (rest : Text),
          dropReturn line = first :: rest ∧ isBlank first = true) ∧
        ¬ Indented 2 (dropReturn line) ∧
          ∀ spaces : Nat, 4 ≤ spaces → ¬ Indented spaces (dropReturn line)

/--
The line has no part in the outline, in the references or in
the brackets of its text.
-/
structure Idle (line : Text) : Prop where
  ignored : ofText line = .ignored
  bracketless : ∀ character ∈ bracketCharacters, character ∉ line

theorem mem_of_mem_dropReturn {line : Text} {character : Char}
    (member : character ∈ dropReturn line) : character ∈ line := by
  unfold dropReturn at member
  split at member
  · exact List.dropLast_subset line member
  · exact member

theorem Inert.idle {line : Text} (inert : Inert line) :
    Idle (dropReturn line) where
  ignored := by
    rcases inert.shape
      with empty | ⟨⟨first, rest, begins, blank⟩, notTwo, notMore⟩
    · rw [empty]
      rfl
    · apply ofText_eq_ignored_of_shape _ notTwo notMore
      rintro ⟨other, more, whole, visible⟩
      rw [begins] at whole
      obtain ⟨rfl, _⟩ := List.cons.inj whole
      rw [blank] at visible
      cases visible
  bracketless character isBracket member :=
    inert.bracketless character isBracket (mem_of_mem_dropReturn member)

/-! ## Numbered lines -/

/--
The row of a numbered line once another line is put
below the first of the lines.
-/
def makeRoomNat (above row : Nat) : Nat :=
  if row ≤ above then row else row + 1

theorem cast_makeRoomNat (above row : Nat) :
    (makeRoomNat above row : Int) = makeRoom above row := by
  unfold makeRoomNat makeRoom
  split
  · rw [if_pos (by omega)]
  · rw [if_neg (by omega)]
    rfl

/--
The numbered lines with one inserted are those without it, renumbered around it.
-/
theorem exists_zipIdx_insert
    (above : List Text) (line : Text) (below : List Text) :
    ∃ earlier later : List (Text × Nat),
      (above ++ below).zipIdx 1 = earlier ++ later ∧
        (above ++ line :: below).zipIdx 1 =
          earlier.map (Prod.map id (makeRoomNat above.length)) ++
            (line, 1 + above.length) ::
              later.map (Prod.map id (makeRoomNat above.length)) := by
  refine
    ⟨above.zipIdx 1, below.zipIdx (1 + above.length), List.zipIdx_append, ?_⟩
  have earlierKept :
      (above.zipIdx 1).map (Prod.map id (makeRoomNat above.length)) =
        above.zipIdx 1 := by
    conv_rhs => rw [← List.map_id (above.zipIdx 1)]
    apply List.map_congr_left
    rintro ⟨other, row⟩ member
    have ⟨_, high, _⟩ := List.mem_zipIdx member
    simp only [Prod.map_apply, makeRoomNat,
      if_pos (by omega : row ≤ above.length)]
    rfl
  have laterMoved :
      (below.zipIdx (1 + above.length)).map
          (Prod.map id (makeRoomNat above.length)) =
        below.zipIdx (1 + above.length + 1) := by
    have moved :
        (below.zipIdx (1 + above.length)).map (Prod.map id (· + 1)) =
          below.zipIdx (1 + above.length + 1) := by
      rw [List.map_snd_add_zipIdx_eq_zipIdx, Nat.add_comm 1 (1 + above.length)]
    rw [← moved]
    apply List.map_congr_left
    rintro ⟨other, row⟩ member
    have ⟨low, _, _⟩ := List.mem_zipIdx member
    simp only [Prod.map_apply, makeRoomNat,
      if_neg (by omega : ¬ row ≤ above.length)]
  rw [List.zipIdx_append, List.zipIdx_cons, earlierKept, laterMoved]

/-! ## Findings about lines -/

/-- The characters of lines, each with its position. -/
def locatedOfLines (lines : List Text) : List (Char × Position) :=
  (lines.zipIdx 1).flatMap fun (line, row) => locatedIn row line

namespace Check

/-- The findings about a text that has the given lines. -/
def findingsOfLines (file : Text) (lines : List Text) : List Finding :=
  match Balance.scan [] (locatedOfLines lines) with
  | some problem => [problem.finding file]
  | none =>
      Duplicate.findings file (Outline.ofLines file lines)
        ++ Resolution.findings (Outline.ofLines file lines)

theorem findings_eq_findingsOfLines (file text : Text) :
    findings file text = findingsOfLines file text.lines := by
  have scanned :
      Balance.scan [] (locatedOfLines text.lines) = Balance.problem? text :=
    rfl
  rw [findingsOfLines, scanned]
  cases search : Balance.problem? text with
  | some problem =>
      have found :
          Balance.finding? file text = some (problem.finding file) := by
        rw [Balance.finding?, search, Option.map_some]
      rw [findings_of_unbalanced found]
  | none =>
      have balanced : Balance.finding? file text = none := by
        rw [Balance.finding?, search, Option.map_none]
      rw [findings_of_balanced balanced, Outline.parse_eq_ofLines]

end Check

/-! ## An idle line among lines -/

section Idle

variable {line : Text} (idle : Idle line) (above below : List Text)

include idle

theorem Layout.draft_insert :
    draft (above ++ line :: below) =
      (draft (above ++ below)).renumber (makeRoom above.length) := by
  obtain ⟨earlier, later, without, inserted⟩ :=
    exists_zipIdx_insert above line below
  have skipped (draft : Draft) (row : Int) : draft.read row line = draft := by
    rw [Draft.read, idle.ignored]
  rw [renumber_draft, without, ← readAll_eq_draft, inserted, Draft.readAll]
  simp only [List.foldl_append, List.foldl_cons, List.foldl_map, Prod.map_fst,
    Prod.map_snd, id, skipped, cast_makeRoomNat]

theorem Reference.ofLines_insert (file : Text) :
    ofLines file (above ++ line :: below) =
      (ofLines file (above ++ below)).map
        (·.renumber (makeRoom above.length)) := by
  obtain ⟨earlier, later, without, inserted⟩ :=
    exists_zipIdx_insert above line below
  have noReference (row : Int) : onLine file row line = [] := by
    rw [onLine, spans_eq_nil none 1 (idle.bracketless ']' (by decide)),
      List.map_nil]
  rw [renumber_ofLines, without, ofLines, inserted]
  simp only [List.flatMap_append, List.flatMap_cons, List.flatMap_map,
    Prod.map_fst, Prod.map_snd, id, noReference, cast_makeRoomNat,
    List.nil_append]

theorem Outline.ofLines_insert (file : Text) :
    ofLines file (above ++ line :: below) =
      (ofLines file (above ++ below)).renumber (makeRoom above.length) :=
  congrArg₂ Outline.mk
    (congrArg Draft.sections (Layout.draft_insert idle above below))
    (Reference.ofLines_insert idle above below file)

/-- The brackets around the line are those without it, in their new rows. -/
theorem filter_locatedOfLines_insert :
    (locatedOfLines (above ++ line :: below)).filter
        (Balance.isBracketCharacter ·.1) =
      ((locatedOfLines (above ++ below)).map
          (Prod.map id (·.renumber (makeRoom above.length)))).filter
        (Balance.isBracketCharacter ·.1) := by
  obtain ⟨earlier, later, without, inserted⟩ :=
    exists_zipIdx_insert above line below
  have noBracket (row : Nat) :
      (locatedIn row line).filter (Balance.isBracketCharacter ·.1) = [] := by
    rw [List.filter_eq_nil_iff]
    rintro ⟨character, position⟩ member isBracket
    obtain ⟨col, found, _⟩ :=
      (mem_locatedIn_iff row line character position).mp member
    have isBracketCharacter : character ∈ bracketCharacters := by
      simpa [Balance.isBracketCharacter] using isBracket
    exact idle.bracketless character isBracketCharacter
      (List.mem_of_getElem? found)
  have renumbered (numbered : Text × Nat) :
      (locatedIn numbered.2 numbered.1).map
          (Prod.map id (·.renumber (makeRoom above.length))) =
        locatedIn (makeRoomNat above.length numbered.2) numbered.1 := by
    rw [locatedIn, locatedIn, List.map_map, cast_makeRoomNat]
    rfl
  rw [locatedOfLines, locatedOfLines, without, inserted]
  simp only [List.flatMap_append, List.flatMap_cons, List.flatMap_map,
    List.map_append, List.map_flatMap, List.filter_append, Prod.map_fst,
    Prod.map_snd, id, noBracket, renumbered, List.nil_append]

theorem Balance.scan_insert :
    scan [] (locatedOfLines (above ++ line :: below)) =
      (scan [] (locatedOfLines (above ++ below))).map
        (BracketProblem.renumber (makeRoom above.length)) := by
  rw [← scan_renumber, List.map_nil,
    ← scan_filter isBracketCharacter isBracketCharacter_of_mem,
    filter_locatedOfLines_insert idle,
    scan_filter isBracketCharacter isBracketCharacter_of_mem]

theorem Check.findingsOfLines_insert (file : Text) :
    findingsOfLines file (above ++ line :: below) =
      (findingsOfLines file (above ++ below)).map
        (·.renumber (makeRoom above.length)) := by
  rw [findingsOfLines, Balance.scan_insert idle, Outline.ofLines_insert idle,
    Duplicate.findings_renumber, Resolution.findings_renumber,
    ← List.map_append, findingsOfLines]
  cases Balance.scan [] (locatedOfLines (above ++ below)) with
  | none => rfl
  | some problem =>
      rw [Option.map_some, List.map_singleton, ← problem.renumber_finding]

end Idle

/-! ## An inert line in a text -/

theorem idle_nil : Idle [] where
  ignored := rfl
  bracketless := fun _ _ => List.not_mem_nil

theorem Check.findings_intercalate
    (file : Text) {joined : List Text}
    (unbroken : ∀ line ∈ joined, '\n' ∉ line) :
    findings file (['\n'].intercalate joined) =
      findingsOfLines file (joined.map dropReturn) := by
  rw [findings_eq_findingsOfLines]
  cases joined with
  | nil => exact findingsOfLines_insert idle_nil [] [] file
  | cons first rest =>
      rw [lines_intercalate unbroken (List.cons_ne_nil first rest)]

/--
With an inert line put between its lines, a text has the same findings in the
same order, with the rows from the insertion on one higher.
-/
theorem Check.findings_insert_inert
    (file : Text) {above below : List Text}
    (unbroken : ∀ line ∈ above ++ below, '\n' ∉ line) {line : Text}
    (inert : Inert line) :
    findings file (['\n'].intercalate (above ++ line :: below)) =
      (findings file (['\n'].intercalate (above ++ below))).map
        (·.renumber (makeRoom above.length)) := by
  have allUnbroken : ∀ other ∈ above ++ line :: below, '\n' ∉ other := by
    intro other member
    rw [List.mem_append, List.mem_cons] at member
    rcases member with inAbove | rfl | inBelow
    · exact unbroken other (List.mem_append_left below inAbove)
    · exact inert.unbroken
    · exact unbroken other (List.mem_append_right above inBelow)
  have inserted :=
    findingsOfLines_insert inert.idle (above.map dropReturn)
      (below.map dropReturn) file
  rw [List.length_map, ← List.map_append, ← List.map_cons,
    ← List.map_append] at inserted
  rw [findings_intercalate file allUnbroken, findings_intercalate file unbroken,
    inserted]

/-- The line has three spaces and then a visible character. -/
def Check.note : Text :=
  "   still warm\r".toList

theorem Check.note_inert : Inert note where
  unbroken := by decide
  bracketless := by
    -- Asked of all characters, the question would be decided for each of them.
    have free :
        bracketCharacters.all (fun character =>
            decide (character ∉ note)) = true := by
      decide
    intro character isBracket
    exact of_decide_eq_true (List.all_eq_true.mp free character isBracket)
  shape := by
    have threeSpaces : Indented 3 (dropReturn note) :=
      ⟨'s', "till warm".toList, by decide, by decide⟩
    refine Or.inr ⟨⟨' ', "  still warm".toList, by decide, by decide⟩, ?_, ?_⟩
    · intro two
      exact absurd (two.indentation_eq.symm.trans threeSpaces.indentation_eq)
        (by decide)
    · intro spaces many indented
      have same := indented.indentation_eq.symm.trans threeSpaces.indentation_eq
      omega

/--
The note stands between a header and its repetition, which
keeps the row of the first.
-/
theorem Check.findings_insert_note :
    (∀ line ∈ ["drinks".toList, "  hot".toList] ++
        ["  hot".toList, "    [milk]".toList],
        '\n' ∉ line) ∧
      Inert note ∧
        findings []
            ("drinks\n  hot\n   still warm\r\n  hot\n    [milk]".toList) =
          [⟨[], ⟨4, 3⟩, .duplicate "drinks".toList "hot".toList 2⟩,
            ⟨[], ⟨5, 5⟩,
              .unresolved .unknownSection "milk".toList none none⟩] := by
  have unbroken :
      ∀ line ∈ ["drinks".toList, "  hot".toList] ++
          ["  hot".toList, "    [milk]".toList],
        '\n' ∉ line := by
    decide
  refine ⟨unbroken, note_inert, ?_⟩
  have joined :
      "drinks\n  hot\n   still warm\r\n  hot\n    [milk]".toList =
        ['\n'].intercalate
          (["drinks".toList, "  hot".toList] ++
            note :: ["  hot".toList, "    [milk]".toList]) := by
    decide +kernel
  rw [joined, findings_insert_inert [] unbroken note_inert]
  decide +kernel

end OutlineLint
