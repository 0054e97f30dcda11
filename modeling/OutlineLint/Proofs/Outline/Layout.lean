import OutlineLint.Outline.Parse
import OutlineLint.Proofs.Outline.Collect
import OutlineLint.Proofs.Outline.LineClass

/-!
# The layout of a text

What the lines of a text contribute to its outline, without a place that is
moved from line to line.  A line belongs to the section of the nearest section
header above it and, inside that section, to the subsection of the nearest
subsection header between the two.  Names stand in the order in which they first
occur, and everything else in the order of its lines.

A subsection header repeats the one above it if both have the same name and the
same normalized text.  It is recorded with the row of the first header of the
run of such headers that ends above it.
-/

namespace OutlineLint.Layout

open OutlineLine

/-- The item that a line makes below the given lines. -/
def itemOf (above : List Text) (line : Text) : Item :=
  ⟨line.trim, ⟨(above.length + 1 : Nat), (line.takeWhile (· = ' ')).length + 1⟩⟩

theorem itemOf_of_indented
    {spaces : Nat} {line : Text} (indented : Indented spaces line)
    (above : List Text) :
    itemOf above line =
      ⟨line.trim, ⟨(above.length + 1 : Nat), spaces + 1⟩⟩ := by
  have column : (line.takeWhile (· = ' ')).length = spaces :=
    indented.indentation_eq
  rw [itemOf, column]

/-! ## What stands above a line -/

/-- The name of the section whose header is the nearest above. -/
def sectionAbove? (above : List Text) : Option Text :=
  (above.reverse.find? (IsSectionHeader ·)).map Text.firstWord

/--
The subsection headers below the nearest section header
above, the nearest first.
-/
def headersAbove (above : List Text) : List Item :=
  ((above.zipIdx.reverse.takeWhile (¬ IsSectionHeader ·.1)).filter
      (IsSubsectionHeader ·.1)).map
    fun (line, index) => itemOf (above.take index) line

/-- A section, or a subsection of it. -/
structure Scope where
  sectionName : Text
  subsectionName : Option Text
  deriving DecidableEq

/-- Where a line below the given lines belongs. -/
def scopeBelow? (above : List Text) : Option Scope :=
  (sectionAbove? above).map fun sectionName =>
    ⟨sectionName, (headersAbove above).head?.map (·.text.firstWord)⟩

/-! ## Runs of equal headers -/

/-- The headers have the same name and the same normalized text. -/
def SameHeader (first second : Item) : Prop :=
  first.text.firstWord = second.text.firstWord ∧
    first.normalized = second.normalized

instance (first second : Item) : Decidable (SameHeader first second) :=
  inferInstanceAs (Decidable (_ ∧ _))

/-- The headers up to the first that differs from the nearest. -/
def run : List Item → List Item
  | [] => []
  | nearest :: rest => nearest :: rest.takeWhile (SameHeader nearest ·)

/-- The first header of the run that ends above. -/
def openingAbove? (above : List Text) : Option Item :=
  (run (headersAbove above)).getLast?

/-- The header repeats the nearest one above. -/
def RepeatsAbove (above : List Text) (header : Item) : Prop :=
  ∃ nearest ∈ (headersAbove above).head?, SameHeader nearest header

instance (above : List Text) (header : Item) :
    Decidable (RepeatsAbove above header) :=
  match found : (headersAbove above).head? with
  | none => isFalse (by simp [RepeatsAbove, found])
  | some nearest =>
      decidable_of_iff (SameHeader nearest header)
        (by simp [RepeatsAbove, found])

/-! ## What the lines contribute -/

def sectionNames (lines : List Text) : List Text :=
  (lines.filter (IsSectionHeader ·)).map Text.firstWord

def headerLines (name : Text) (lines : List Text) : List HeaderLine :=
  collect
    (fun above line =>
      if IsSectionHeader line ∧ line.firstWord = name then
        some ⟨(above.length + 1 : Nat), line⟩
      else
        none)
    lines

/-- The subsection headers in the sections of one name. -/
def subsectionHeaders (sectionName : Text) (lines : List Text) : List Item :=
  collect
    (fun above line =>
      if IsSubsectionHeader line ∧ sectionAbove? above = some sectionName then
        some (itemOf above line)
      else
        none)
    lines

/-- The names on the subsection headers in the sections of one name. -/
def subsectionNames (sectionName : Text) (lines : List Text) : List Text :=
  (subsectionHeaders sectionName lines).map (·.text.firstWord)

def entries (scope : Scope) (lines : List Text) : List Item :=
  collect
    (fun above line =>
      if IsEntry line ∧ scopeBelow? above = some scope then
          some (itemOf above line)
        else none)
    lines

/-- The repeated subsection headers in the sections of one name. -/
def repeatedHeaders (sectionName : Text) (lines : List Text) :
    List RepeatedHeader :=
  collect
    (fun above line =>
      if IsSubsectionHeader line ∧ sectionAbove? above = some sectionName ∧
          RepeatsAbove above (itemOf above line) then
        (openingAbove? above).map fun opening =>
          ⟨itemOf above line, opening.position.row⟩
      else
        none)
    lines

/-- The position of the first subsection header of a name. -/
def subsectionPosition
    (sectionName name : Text) (lines : List Text) : Position :=
  (((subsectionHeaders sectionName lines).find? (·.text.firstWord = name)).map
    Item.position).getD ⟨0, 0⟩

/-! ## The outline -/

/--
The subsection of a name, with everything that the lines contribute to it.
-/
def subsectionOf
    (sectionName : Text) (lines : List Text) (name : Text) : Subsection where
  name := name
  position := subsectionPosition sectionName name lines
  items := entries ⟨sectionName, some name⟩ lines

/-- The section of a name, with everything that the lines contribute to it. -/
def sectionOf (lines : List Text) (name : Text) : Section where
  name := name
  subsections :=
    (subsectionNames name lines).eraseDups.map (subsectionOf name lines)
  items := entries ⟨name, none⟩ lines
  repeatedHeaders := repeatedHeaders name lines
  headerLines := headerLines name lines

def sections (lines : List Text) : List Section :=
  (sectionNames lines).eraseDups.map (sectionOf lines)

/-- The subsection that is open below the lines. -/
def headingAbove? (lines : List Text) : Option Heading :=
  (openingAbove? lines).map fun opening => ⟨opening.text.firstWord, opening⟩

/-- Where reading goes on below the lines. -/
def place? (lines : List Text) : Option Place :=
  (sectionAbove? lines).map fun sectionName =>
    ⟨sectionName, headingAbove? lines⟩

/-- The sections that the lines make, and where reading goes on below them. -/
def draft (lines : List Text) : Draft :=
  ⟨sections lines, place? lines⟩

/-! ## Rows -/

/-- Items that are made by chosen lines come in the order of their rows. -/
theorem pairwise_rows_collect
    {Chosen : List Text → Text → Prop}
    [∀ above line, Decidable (Chosen above line)] (lines : List Text) :
    (collect (fun above line =>
        if Chosen above line then some (itemOf above line) else none)
      lines).Pairwise fun first second =>
        first.position.row < second.position.row := by
  apply pairwise_collect fun item : Item => item.position.row
  intro above line item picked
  split at picked
  · cases picked
    rfl
  · cases picked

/-! ## One more line above -/

theorem sectionAbove?_snoc (above : List Text) (line : Text) :
    sectionAbove? (above ++ [line]) =
      if IsSectionHeader line then some line.firstWord
        else sectionAbove? above := by
  rw [sectionAbove?, List.reverse_append, List.reverse_singleton,
    List.singleton_append, List.find?_cons]
  by_cases isHeader : IsSectionHeader line <;> simp [isHeader, sectionAbove?]

theorem headersAbove_snoc (above : List Text) (line : Text) :
    headersAbove (above ++ [line]) =
      if IsSectionHeader line then []
      else if IsSubsectionHeader line then
        itemOf above line :: headersAbove above
      else headersAbove above := by
  have earlier :
      ((above.zipIdx.reverse.takeWhile (¬ IsSectionHeader ·.1)).filter
          (IsSubsectionHeader ·.1)).map
          (fun (other, index) => itemOf ((above ++ [line]).take index) other) =
        headersAbove above := by
    apply List.map_congr_left
    rintro ⟨other, index⟩ member
    have inLines : (other, index) ∈ above.zipIdx :=
      List.mem_reverse.mp ((List.takeWhile_sublist _).subset
        (List.mem_of_mem_filter member))
    have bounds := (List.mem_zipIdx' inLines).1
    dsimp only
    rw [List.take_append_of_le_length bounds.le]
  have lastFirst :
      (above ++ [line]).zipIdx.reverse =
        (line, above.length) :: above.zipIdx.reverse := by
    simp [List.zipIdx_append]
  rw [headersAbove, lastFirst]
  by_cases isHeader : IsSectionHeader line
  · rw [List.takeWhile_cons_of_neg (by simpa using isHeader), if_pos isHeader]
    rfl
  · rw [List.takeWhile_cons_of_pos (by simpa using isHeader), if_neg isHeader]
    by_cases isSubsection : IsSubsectionHeader line
    · rw [List.filter_cons_of_pos (by simpa using isSubsection),
        if_pos isSubsection, List.map_cons, earlier]
      dsimp only
      rw [List.take_left]
    · rw [List.filter_cons_of_neg (by simpa using isSubsection),
        if_neg isSubsection, earlier]

end OutlineLint.Layout
