import OutlineLint.Outline.Line
import OutlineLint.Proofs.Text.Trimmed

/-!
# Classes of lines

A line opens a section, opens a subsection, is an entry, or is ignored, by the
number of spaces before its first visible character and by its trimmed content.
The classes are stated here by the shape of the line; reading a line gives
exactly its class, with the first word and the trimmed content of the line.
-/

namespace OutlineLint.OutlineLine

/-- The line has this many spaces and then a character that is not a blank. -/
def Indented (spaces : Nat) (line : Text) : Prop :=
  ∃ (first : Char) (rest : Text),
    line = List.replicate spaces ' ' ++ first :: rest ∧
      Text.isBlank first = false

def IsSectionHeader (line : Text) : Prop :=
  Indented 0 line

def IsSubsectionHeader (line : Text) : Prop :=
  Indented 2 line ∧ Label.isLabel line.trim = true

def IsEntry (line : Text) : Prop :=
  (Indented 2 line ∧ Label.isLabel line.trim = false) ∨
    ∃ spaces : Nat, 4 ≤ spaces ∧ Indented spaces line

theorem IsEntry.exists_indented {line : Text} (isEntry : IsEntry line) :
    ∃ spaces : Nat, Indented spaces line := by
  rcases isEntry with ⟨indented, _⟩ | ⟨spaces, _, indented⟩
  · exact ⟨2, indented⟩
  · exact ⟨spaces, indented⟩

/-! ## Reading an indented line -/

theorem ne_space_of_visible
    {character : Char} (visible : Text.isBlank character = false) :
    character ≠ ' ' := by
  rintro rfl
  revert visible
  decide

theorem dropWhile_indented
    {first : Char} (visible : Text.isBlank first = false) (spaces : Nat)
    (rest : Text) :
    (List.replicate spaces ' ' ++ first :: rest).dropWhile (· = ' ') =
      first :: rest := by
  rw [List.dropWhile_append_of_pos (by simp)]
  exact List.dropWhile_cons_of_neg (by simpa using ne_space_of_visible visible)

theorem indentation_indented
    {first : Char} (visible : Text.isBlank first = false) (spaces : Nat)
    (rest : Text) :
    indentation (List.replicate spaces ' ' ++ first :: rest) = spaces := by
  rw [indentation, List.takeWhile_append_of_pos (by simp),
    List.takeWhile_cons_of_neg (by simpa using ne_space_of_visible visible)]
  simp

theorem Indented.indentation_eq
    {spaces : Nat} {line : Text} (indented : Indented spaces line) :
    indentation line = spaces := by
  obtain ⟨first, rest, rfl, visible⟩ := indented
  exact indentation_indented visible spaces rest

theorem trim_indented (spaces : Nat) (content : Text) :
    Text.trim (List.replicate spaces ' ' ++ content) = Text.trim content := by
  have allBlank :
      ∀ character ∈ List.replicate spaces ' ',
          Text.isBlank character = true := by
    intro character member
    rw [List.eq_of_mem_replicate member]
    decide
  rw [Text.trim, Text.trimLeft, List.dropWhile_append_of_pos allBlank]
  rfl

theorem trim_indented_cons
    {first : Char} (visible : Text.isBlank first = false) (spaces : Nat)
    (rest : Text) :
    Text.trim (List.replicate spaces ' ' ++ first :: rest) =
      first :: Text.trimRight rest := by
  rw [trim_indented, Text.trim, Text.trimLeft,
    List.dropWhile_cons_of_neg (by simp [visible]), Text.trimRight_cons visible]

theorem indented_iff (spaces : Nat) (line : Text) :
    Indented spaces line ↔
      line.take spaces = List.replicate spaces ' ' ∧
        (line.drop spaces).head?.any (!Text.isBlank ·) = true := by
  constructor
  · rintro ⟨first, rest, rfl, visible⟩
    have width : (List.replicate spaces ' ').length = spaces :=
      List.length_replicate
    rw [List.take_left' width, List.drop_left' width]
    simpa using visible
  · rintro ⟨spacesOnly, hasHead⟩
    rw [Option.any_eq_true] at hasHead
    obtain ⟨first, isHead, visible⟩ := hasHead
    obtain ⟨rest, dropped⟩ := List.head?_eq_some_iff.mp isHead
    refine ⟨first, rest, ?_, by simpa using visible⟩
    rw [← spacesOnly, ← dropped, List.take_append_drop]

instance (spaces : Nat) (line : Text) : Decidable (Indented spaces line) :=
  decidable_of_iff _ (indented_iff spaces line).symm

/-- What a line with this many spaces before its content contributes. -/
def ofIndentation (spaces : Nat) (line : Text) : OutlineLine :=
  match spaces with
  | 0 => sectionHeader line.firstWord
  | 1 => ignored
  | 2 =>
      if Label.isLabel line.trim then
        subsectionHeader line.firstWord line.trim
      else
        entry line.trim
  | 3 => ignored
  | _ + 4 => entry line.trim

theorem ofText_of_indented
    {spaces : Nat} {line : Text} (indented : Indented spaces line) :
    ofText line = ofIndentation spaces line := by
  obtain ⟨first, rest, rfl, visible⟩ := indented
  rcases spaces with _ | _ | _ | _ | more <;>
    simp only [ofText, ofIndentation, dropWhile_indented visible,
      indentation_indented visible, visible, Bool.false_eq_true, if_false,
      ← Text.firstWord_trim (_ ++ _), trim_indented]

theorem ofText_of_not_indented
    {line : Text} (free : ∀ spaces : Nat, ¬ Indented spaces line) :
    ofText line = ignored := by
  rw [ofText]
  split
  · rfl
  · next first rest visiblePart =>
      split
      · rfl
      · next visible =>
          exfalso
          apply free (line.takeWhile (· = ' ')).length
          refine ⟨first, rest, ?_, by simpa using visible⟩
          have spacesOnly :
              line.takeWhile (· = ' ') =
                List.replicate (line.takeWhile (· = ' ')).length ' ' := by
            rw [List.eq_replicate_iff]
            exact ⟨rfl,
              fun character member => by
                simpa using List.mem_takeWhile_imp member⟩
          rw [← spacesOnly, ← visiblePart]
          exact List.takeWhile_append_dropWhile.symm

/-- A line is read by its indentation, or ignored if it has none. -/
theorem ofText_view (line : Text) :
    ofText line = ignored ∨
      ∃ spaces : Nat, Indented spaces line ∧
        ofText line = ofIndentation spaces line := by
  by_cases free : ∀ spaces : Nat, ¬ Indented spaces line
  · exact Or.inl (ofText_of_not_indented free)
  · push Not at free
    obtain ⟨spaces, indented⟩ := free
    exact Or.inr ⟨spaces, indented, ofText_of_indented indented⟩

theorem ofText_eq_ignored_of_shape
    {line : Text} (blankFirst : ¬ Indented 0 line) (notTwo : ¬ Indented 2 line)
    (notMore : ∀ spaces : Nat, 4 ≤ spaces → ¬ Indented spaces line) :
    ofText line = .ignored := by
  rcases ofText_view line with ignored | ⟨spaces, indented, read⟩
  · exact ignored
  · rw [read]
    rcases spaces with _ | _ | _ | _ | more
    · exact absurd indented blankFirst
    · rfl
    · exact absurd indented notTwo
    · rfl
    · exact absurd indented (notMore (more + 4) (by omega))

/-! ## Reading a line of each class -/

theorem isSectionHeader_iff (line : Text) :
    IsSectionHeader line ↔ ofText line = sectionHeader line.firstWord := by
  constructor
  · exact ofText_of_indented
  · intro isHeader
    rcases ofText_view line with ignoredLine | ⟨spaces, indented, read⟩
    · rw [ignoredLine] at isHeader
      cases isHeader
    · rw [read] at isHeader
      rcases spaces with _ | _ | _ | _ | more
      · exact indented
      · cases isHeader
      · simp only [ofIndentation] at isHeader
        split at isHeader <;> cases isHeader
      · cases isHeader
      · cases isHeader

theorem isSubsectionHeader_iff (line : Text) :
    IsSubsectionHeader line ↔
      ofText line = subsectionHeader line.firstWord line.trim := by
  constructor
  · rintro ⟨indented, isLabel⟩
    rw [ofText_of_indented indented]
    exact if_pos isLabel
  · intro isHeader
    rcases ofText_view line with ignoredLine | ⟨spaces, indented, read⟩
    · rw [ignoredLine] at isHeader
      cases isHeader
    · rw [read] at isHeader
      rcases spaces with _ | _ | _ | _ | more
      · cases isHeader
      · cases isHeader
      · simp only [ofIndentation] at isHeader
        split at isHeader
        · next isLabel => exact ⟨indented, isLabel⟩
        · cases isHeader
      · cases isHeader
      · cases isHeader

theorem isEntry_iff (line : Text) :
    IsEntry line ↔ ofText line = entry line.trim := by
  constructor
  · rintro (⟨indented, notLabel⟩ | ⟨spaces, many, indented⟩)
    · rw [ofText_of_indented indented]
      exact if_neg (by simp [notLabel])
    · obtain ⟨more, rfl⟩ := Nat.exists_eq_add_of_le' many
      exact ofText_of_indented indented
  · intro isEntry
    rcases ofText_view line with ignoredLine | ⟨spaces, indented, read⟩
    · rw [ignoredLine] at isEntry
      cases isEntry
    · rw [read] at isEntry
      rcases spaces with _ | _ | _ | _ | more
      · cases isEntry
      · cases isEntry
      · simp only [ofIndentation] at isEntry
        split at isEntry
        · cases isEntry
        · next notLabel => exact Or.inl ⟨indented, by simpa using notLabel⟩
      · cases isEntry
      · exact Or.inr ⟨more + 4, by omega, indented⟩

instance : DecidablePred IsSectionHeader := fun line =>
  decidable_of_iff _ (isSectionHeader_iff line).symm

instance : DecidablePred IsSubsectionHeader := fun line =>
  decidable_of_iff _ (isSubsectionHeader_iff line).symm

instance : DecidablePred IsEntry := fun line =>
  decidable_of_iff _ (isEntry_iff line).symm

theorem IsSectionHeader.not_isSubsectionHeader
    {line : Text} (isHeader : IsSectionHeader line) :
    ¬ IsSubsectionHeader line := by
  rw [isSectionHeader_iff] at isHeader
  simp [isSubsectionHeader_iff, isHeader]

theorem IsSectionHeader.not_isEntry
    {line : Text} (isHeader : IsSectionHeader line) : ¬ IsEntry line := by
  rw [isSectionHeader_iff] at isHeader
  simp [isEntry_iff, isHeader]

theorem IsSubsectionHeader.not_isEntry
    {line : Text} (isHeader : IsSubsectionHeader line) : ¬ IsEntry line := by
  rw [isSubsectionHeader_iff] at isHeader
  simp [isEntry_iff, isHeader]

/-- A line of no class is ignored. -/
theorem ofText_cases (line : Text) :
    ofText line = sectionHeader line.firstWord ∨
      ofText line = subsectionHeader line.firstWord line.trim ∨
        ofText line = entry line.trim ∨ ofText line = ignored := by
  rcases ofText_view line with ignoredLine | ⟨spaces, _, read⟩
  · simp [ignoredLine]
  · rw [read]
    rcases spaces with _ | _ | _ | _ | more
    · exact Or.inl rfl
    · simp [ofIndentation]
    · simp only [ofIndentation]
      split <;> simp
    · simp [ofIndentation]
    · exact Or.inr (Or.inr (Or.inl rfl))

end OutlineLint.OutlineLine
