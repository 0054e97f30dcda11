import OutlineLint.Finding
import OutlineLint.Proofs.Balance.Language
import OutlineLint.Proofs.Text.Walk

/-!
# The scan and the language of balanced texts

The scan with pending brackets finds no problem exactly in the texts that close
them.  It sees brackets only, so it may as well read the walk through a text
with its line endings, and a text has no problem exactly if it is balanced.
-/

namespace OutlineLint.Balance

/-! ## One character -/

theorem scan_opener_cons
    (pending : List OpenBracket) (bracket : Bracket) (position : Position)
    (rest : List (Char × Position)) :
    scan pending ((bracket.opener, position) :: rest) =
      scan (⟨bracket, position⟩ :: pending) rest := by
  simp [scan]

theorem scan_plain_cons
    (pending : List OpenBracket) {character : Char}
    (plain : character ∉ bracketCharacters)
    (position : Position) (rest : List (Char × Position)) :
    scan pending ((character, position) :: rest) = scan pending rest := by
  simp [scan, Bracket.ofOpener?_eq_none plain, Bracket.ofCloser?_eq_none plain]

theorem scan_nil_closer_cons
    (bracket : Bracket) (position : Position) (rest : List (Char × Position)) :
    scan [] ((bracket.closer, position) :: rest) =
      some (.unmatched bracket position) := by
  simp [scan]

theorem scan_cons_closer_cons
    (opened : OpenBracket) (outer : List OpenBracket) (bracket : Bracket)
    (position : Position) (rest : List (Char × Position)) :
    scan (opened :: outer) ((bracket.closer, position) :: rest) =
      if opened.bracket = bracket then scan outer rest
      else some (.mismatched bracket position opened) := by
  simp [scan]

/-! ## The whole scan -/

/--
The scan finds no problem exactly if the characters close the pending brackets.
-/
theorem scan_eq_none_iff
    (pending : List OpenBracket) (located : List (Char × Position)) :
    scan pending located = none ↔
      Closes (pending.map OpenBracket.bracket) (located.map Prod.fst) := by
  induction located generalizing pending with
  | nil => cases pending <;> simp [scan, closes_nil_iff]
  | cons head rest ih =>
      obtain ⟨character, position⟩ := head
      rw [List.map_cons]
      rcases Bracket.character_cases character
        with ⟨bracket, rfl⟩ | ⟨bracket, rfl⟩ | plain
      · rw [scan_opener_cons, closes_opener_cons_iff, ih, List.map_cons]
      · cases pending with
        | nil => simp [scan_nil_closer_cons, not_closes_nil_closer_cons]
        | cons opened outer =>
            rw [scan_cons_closer_cons, List.map_cons, closes_closer_cons_iff]
            split
            · next same => simp [same, ih]
            · next other => simp [other]
      · rw [scan_plain_cons pending plain, closes_plain_cons_iff _ plain, ih]

/-- The scan sees the brackets only. -/
theorem scan_filter
    (keep : Char → Bool)
    (keepsBrackets : ∀ character ∈ bracketCharacters, keep character = true)
    (pending : List OpenBracket) (located : List (Char × Position)) :
    scan pending (located.filter (keep ·.1)) = scan pending located := by
  induction located generalizing pending with
  | nil => rfl
  | cons head rest ih =>
      obtain ⟨character, position⟩ := head
      rcases Bracket.character_cases character
        with ⟨bracket, rfl⟩ | ⟨bracket, rfl⟩ | plain
      · rw [List.filter_cons, if_pos (keepsBrackets _ bracket.opener_mem),
          scan_opener_cons, scan_opener_cons, ih]
      · rw [List.filter_cons, if_pos (keepsBrackets _ bracket.closer_mem)]
        cases pending with
        | nil => rw [scan_nil_closer_cons, scan_nil_closer_cons]
        | cons opened outer =>
            rw [scan_cons_closer_cons, scan_cons_closer_cons, ih]
      · rw [scan_plain_cons pending plain]
        by_cases kept : keep character = true
        · rw [List.filter_cons, if_pos kept, scan_plain_cons pending plain, ih]
        · rw [List.filter_cons, if_neg kept, ih]

def isBracketCharacter (character : Char) : Bool :=
  bracketCharacters.contains character

theorem isBracketCharacter_of_mem
    (character : Char) (member : character ∈ bracketCharacters) :
    isBracketCharacter character = true := by
  simpa [isBracketCharacter] using member

/-- A text may be scanned along the walk through it instead of line by line. -/
theorem problem?_eq_scan_walk (text : Text) :
    problem? text = scan [] (text.walk Position.start) := by
  calc
    problem? text = scan [] (text.located.filter (isBracketCharacter ·.1)) :=
      (scan_filter isBracketCharacter isBracketCharacter_of_mem
        [] text.located).symm
    _ = scan []
        ((text.walk Position.start).filter (isBracketCharacter ·.1)) := by
      rw [Text.filter_located isBracketCharacter (by decide) (by decide)]
    _ = scan [] (text.walk Position.start) :=
      scan_filter isBracketCharacter isBracketCharacter_of_mem [] _

theorem problem?_eq_none_iff (text : Text) :
    problem? text = none ↔ Balanced text := by
  rw [problem?_eq_scan_walk, scan_eq_none_iff, Text.walk_map_fst]
  rfl

/-- The character is neither a line feed nor a carriage return. -/
def isInsideLine (character : Char) : Bool :=
  character ≠ '\n' && character ≠ '\r'

theorem isInsideLine_of_mem
    (character : Char) (member : character ∈ bracketCharacters) :
    isInsideLine character = true := by
  simp only [bracketCharacters, List.mem_cons, List.not_mem_nil,
    or_false] at member
  rcases member with rfl | rfl | rfl | rfl | rfl | rfl <;> rfl

/--
The brackets of a text are without a finding exactly if the text is balanced,
and leaving out its line feeds and carriage returns makes no difference.
-/
theorem finding?_eq_none_iff (file text : Text) :
    (finding? file text = none ↔ Balanced text) ∧
      (finding? file (text.filter isInsideLine) = none ↔
        finding? file text = none) := by
  have noneIff (text : Text) : finding? file text = none ↔ Balanced text := by
    rw [finding?, Option.map_eq_none_iff, problem?_eq_none_iff]
  refine ⟨noneIff text, ?_⟩
  rw [noneIff, noneIff]
  exact balanced_filter_iff isInsideLine isInsideLine_of_mem text

end OutlineLint.Balance
