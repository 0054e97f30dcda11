import OutlineLint.Proofs.Outline.Joining
import OutlineLint.Proofs.Outline.Renumbering
import OutlineLint.Proofs.Outline.Trailing

/-!
# Blocks of lines

A block is a section header with the lines below it, up to the next section
header.  Of blocks whose names differ each makes one section of its own, and it
makes the same section wherever it stands: nothing that is above a header counts
below it, and only the rows depend on the place of the block.
-/

namespace OutlineLint

open OutlineLine Text

/-! ## Outlines in parts -/

namespace Outline

/-- The sections and the references of several outlines in turn. -/
def ofParts (parts : List Outline) : Outline :=
  ⟨parts.flatMap sections, parts.flatMap references⟩

/--
The outlines have the same sections and the same references, in whatever order.
-/
structure SameParts (first second : Outline) : Prop where
  sections : first.sections.Perm second.sections
  references : first.references.Perm second.references

theorem sameParts_ofParts
    {parts others : List Outline} (same : parts.Perm others) :
    (ofParts parts).SameParts (ofParts others) :=
  ⟨same.flatMap_right sections, same.flatMap_right references⟩

theorem renumber_ofParts (parts : List Outline) (number : Int → Int) :
    (ofParts parts).renumber number =
      ofParts (parts.map (·.renumber number)) := by
  simp only [ofParts, renumber, List.map_flatMap, List.flatMap_map]

end Outline

/-! ## Lines joined at a section header -/

theorem Reference.ofLines_append (file : Text) (above lines : List Text) :
    ofLines file (above ++ lines) =
      ofLines file above ++
        (ofLines file lines).map (·.below above.length) := by
  have numberedEq :
      lines.zipIdx (1 + above.length) =
        (lines.zipIdx 1).map (Prod.map id (· + above.length)) := by
    rw [List.map_snd_add_zipIdx_eq_zipIdx, Nat.add_comm]
  simp only [ofLines, List.zipIdx_append, List.flatMap_append, numberedEq,
    List.flatMap_map, List.map_flatMap, ← onLine_add]
  rfl

theorem Outline.ofLines_append
    (file : Text) (above : List Text) {lines : List Text}
    (begins : Layout.BeginsSection lines) :
    ofLines file (above ++ lines) =
      (ofLines file above).merge ((ofLines file lines).below above.length) :=
  congrArg₂ Outline.mk (Layout.sections_append above begins)
    (Reference.ofLines_append file above lines)

/-! ## Blocks -/

/-- A section header with lines below it that open no other section. -/
structure Block where
  header : Text
  body : List Text
  isHeader : IsSectionHeader header
  noOther : ∀ line ∈ body, ¬ IsSectionHeader line
  unbroken : ∀ line ∈ header :: body, '\n' ∉ line
  deriving DecidableEq

namespace Block

def name (block : Block) : Text :=
  block.header.firstWord

def lines (block : Block) : List Text :=
  block.header :: block.body

/-- The lines of blocks that stand one below the other. -/
def linesOf (blocks : List Block) : List Text :=
  blocks.flatMap lines

/-- The text of blocks that stand one below the other. -/
def textOf (blocks : List Block) : Text :=
  ['\n'].intercalate (linesOf blocks)

/-- The number of lines above a block. -/
def linesAbove (blocks : List Block) (block : Block) : Nat :=
  (linesOf (blocks.takeWhile (· ≠ block))).length

/--
The row of a line once its block has moved to its place in the other order.
-/
def movedRow (blocks reordered : List Block) (row : Int) : Int :=
  let holdsRow (block : Block) : Bool :=
    linesAbove blocks block < row ∧
      row ≤ linesAbove blocks block + block.lines.length
  match blocks.find? holdsRow with
  | some block => row - linesAbove blocks block + linesAbove reordered block
  | none => row

/-! ## Rows -/

theorem linesOf_append (first second : List Block) :
    linesOf (first ++ second) = linesOf first ++ linesOf second :=
  List.flatMap_append

theorem linesOf_cons (block : Block) (rest : List Block) :
    linesOf (block :: rest) = block.lines ++ linesOf rest :=
  List.flatMap_cons

theorem linesAbove_append_cons
    {before : List Block} {block : Block} (first : block ∉ before)
    (after : List Block) :
    linesAbove (before ++ block :: after) block = (linesOf before).length := by
  have others : ∀ other ∈ before, decide (other ≠ block) = true := by
    intro other member
    rw [decide_eq_true_eq]
    rintro rfl
    exact first member
  rw [linesAbove, List.takeWhile_append_of_pos others,
    List.takeWhile_cons_of_neg (by simp), List.append_nil]

theorem linesAbove_append_of_mem
    {blocks : List Block} {block : Block} (member : block ∈ blocks)
    (more : List Block) :
    linesAbove (blocks ++ more) block = linesAbove blocks block := by
  obtain ⟨before, after, rfl, first⟩ := List.eq_append_cons_of_mem member
  rw [List.append_assoc, List.cons_append, linesAbove_append_cons first,
    linesAbove_append_cons first]

/-- A block ends above all that stands below it. -/
theorem linesAbove_add_length_le
    {before : List Block} {block : Block} (member : block ∈ before)
    (more : List Block) :
    linesAbove (before ++ more) block + block.lines.length ≤
      (linesOf before).length := by
  obtain ⟨earlier, later, rfl, first⟩ := List.eq_append_cons_of_mem member
  rw [List.append_assoc, List.cons_append, linesAbove_append_cons first,
    linesOf_append, linesOf_cons, List.length_append, List.length_append]
  omega

/-- A line keeps its place in its block. -/
theorem movedRow_linesAbove_add
    {blocks : List Block} {block : Block} (member : block ∈ blocks)
    (reordered : List Block)
    {place : Nat} (positive : 1 ≤ place)
    (inBlock : place ≤ block.lines.length) :
    movedRow blocks reordered (place + linesAbove blocks block) =
      place + linesAbove reordered block := by
  obtain ⟨before, after, whole, first⟩ := List.eq_append_cons_of_mem member
  have above : linesAbove blocks block = (linesOf before).length := by
    rw [whole, linesAbove_append_cons first]
  have earlierEnds (other : Block) (isEarlier : other ∈ before) :
      linesAbove blocks other + other.lines.length ≤
        linesAbove blocks block := by
    rw [above, whole]
    exact linesAbove_add_length_le isEarlier _
  have found :
      blocks.find? (fun other : Block =>
          decide (linesAbove blocks other <
              (place + linesAbove blocks block : Int) ∧
            (place + linesAbove blocks block : Int) ≤
              linesAbove blocks other + other.lines.length)) =
        some block := by
    rw [List.find?_eq_some_iff_append]
    refine ⟨by rw [decide_eq_true_eq]; omega, before, after, whole, ?_⟩
    intro other isEarlier
    have ends := earlierEnds other isEarlier
    rw [Bool.not_eq_true', decide_eq_false_iff_not]
    omega
  rw [movedRow]
  simp only [found]
  omega

/-! ## One block -/

/-- The lines of the block without carriage returns of line endings. -/
def readLines (block : Block) : List Text :=
  block.lines.map dropReturn

theorem isSectionHeader_dropReturn_iff (line : Text) :
    IsSectionHeader (dropReturn line) ↔ IsSectionHeader line := by
  rw [← isSectionHeader_trimRight_iff, trimRight_dropReturn,
    isSectionHeader_trimRight_iff]

theorem firstWord_dropReturn (line : Text) :
    (dropReturn line).firstWord = line.firstWord := by
  rw [← firstWord_trimRight, trimRight_dropReturn, firstWord_trimRight]

theorem beginsSection (block : Block) : Layout.BeginsSection block.readLines :=
  ⟨dropReturn block.header, block.body.map dropReturn, rfl,
    (isSectionHeader_dropReturn_iff block.header).mpr block.isHeader⟩

theorem sectionNames_readLines (block : Block) :
    Layout.sectionNames block.readLines = [block.name] := by
  have bodyFree :
      (block.body.map dropReturn).filter (IsSectionHeader ·) = [] := by
    rw [List.filter_eq_nil_iff]
    intro line member
    obtain ⟨other, inBody, rfl⟩ := List.mem_map.mp member
    rw [decide_eq_true_eq, isSectionHeader_dropReturn_iff]
    exact block.noOther other inBody
  have headerKept : IsSectionHeader (dropReturn block.header) :=
    (isSectionHeader_dropReturn_iff block.header).mpr block.isHeader
  rw [Layout.sectionNames, readLines, lines, List.map_cons,
    List.filter_cons_of_pos (by simpa using headerKept), bodyFree,
    List.map_singleton, firstWord_dropReturn, name]

/-- The outline of a block below a number of lines. -/
def outlineBelow (file : Text) (block : Block) (above : Nat) : Outline :=
  (Outline.ofLines file block.readLines).below above

theorem names_outlineBelow (file : Text) (block : Block) (above : Nat) :
    (block.outlineBelow file above).sections.map Section.name =
      [block.name] := by
  have names :
      (Layout.sections block.readLines).map Section.name = [block.name] := by
    rw [Layout.names_sections, sectionNames_readLines]
    rfl
  rw [outlineBelow, Outline.below, List.map_map]
  exact names

/-- The outline of a block where it stands among the blocks. -/
def outlineIn (file : Text) (blocks : List Block) (block : Block) : Outline :=
  block.outlineBelow file (linesAbove blocks block)

theorem outlineIn_append_of_mem
    (file : Text) {blocks : List Block} {block : Block}
    (member : block ∈ blocks) (more : List Block) :
    outlineIn file (blocks ++ more) block = outlineIn file blocks block := by
  rw [outlineIn, linesAbove_append_of_mem member, outlineIn]

/-- A block that has moved has the outline that it had, in its new rows. -/
theorem renumber_outlineIn
    (file : Text) {blocks : List Block} {block : Block}
    (member : block ∈ blocks) (reordered : List Block) :
    (outlineIn file blocks block).renumber (movedRow blocks reordered) =
      outlineIn file reordered block := by
  rw [outlineIn, outlineIn, outlineBelow, outlineBelow,
    Outline.below_eq_renumber, Outline.below_eq_renumber,
    Outline.renumber_renumber]
  apply Outline.renumber_ofLines_congr
  intro place positive inBlock
  rw [readLines, List.length_map] at inBlock
  exact movedRow_linesAbove_add member reordered positive inBlock

/-! ## All blocks -/

/-- The outline with the parts that the blocks make where they stand. -/
def outlineOf (file : Text) (blocks : List Block) : Outline :=
  Outline.ofParts (blocks.map (outlineIn file blocks))

theorem names_outlineOf (file : Text) (blocks : List Block) :
    (outlineOf file blocks).sections.map Section.name = blocks.map name := by
  rw [outlineOf, Outline.ofParts, List.flatMap_map, List.map_flatMap]
  simp only [outlineIn, names_outlineBelow]
  exact List.flatMap_pure_eq_map name blocks

theorem outlineOf_snoc
    (file : Text) {blocks : List Block} {last : Block} (new : last ∉ blocks) :
    outlineOf file (blocks ++ [last]) =
      ⟨(outlineOf file blocks).sections ++
          (last.outlineBelow file (linesOf blocks).length).sections,
        (outlineOf file blocks).references ++
          (last.outlineBelow file (linesOf blocks).length).references⟩ := by
  have earlierKept :
      blocks.map (outlineIn file (blocks ++ [last])) =
        blocks.map (outlineIn file blocks) :=
    List.map_congr_left fun block member =>
      outlineIn_append_of_mem file member [last]
  have lastIn :
      outlineIn file (blocks ++ [last]) last =
        last.outlineBelow file (linesOf blocks).length := by
    rw [outlineIn, linesAbove_append_cons new]
  rw [outlineOf, List.map_append, List.map_singleton, earlierKept, lastIn,
    outlineOf]
  simp only [Outline.ofParts, List.flatMap_append, List.flatMap_singleton]

/--
Of blocks with different names each is read into its own part of the outline.
-/
theorem ofLines_linesOf
    (file : Text) {blocks : List Block} (distinct : (blocks.map name).Nodup) :
    Outline.ofLines file ((linesOf blocks).map dropReturn) =
      outlineOf file blocks := by
  induction blocks using List.reverseRecOn with
  | nil => rfl
  | append_singleton blocks last ih =>
      rw [List.map_append, List.map_singleton, List.nodup_append] at distinct
      obtain ⟨earlierDistinct, _, apart⟩ := distinct
      have newName : last.name ∉ blocks.map name := by
        intro again
        exact apart last.name again last.name
          (List.mem_singleton_self last.name) rfl
      have new : last ∉ blocks :=
        fun again => newName (List.mem_map_of_mem again)
      have readAbove := ih earlierDistinct
      have linesEq :
          (linesOf (blocks ++ [last])).map dropReturn =
            (linesOf blocks).map dropReturn ++ last.readLines := by
        rw [linesOf_append, List.map_append, linesOf_cons]
        exact congrArg (_ ++ List.map dropReturn ·) (List.append_nil last.lines)
      have sectionsApart :
          ∀ opened ∈ (last.outlineBelow file (linesOf blocks).length).sections,
            Named.name opened ∉
              (outlineOf file blocks).sections.map Section.name := by
        intro opened member
        have named : opened.name ∈ [last.name] := by
          rw [← names_outlineBelow file last (linesOf blocks).length]
          exact List.mem_map_of_mem member
        rw [List.mem_singleton] at named
        rw [names_outlineOf]
        exact fun again => newName (named ▸ again)
      -- The header of the last block cuts off all that stands above it.
      rw [linesEq, Outline.ofLines_append file _ last.beginsSection, readAbove,
        outlineOf_snoc file new, Outline.merge, List.length_map]
      exact congrArg (Outline.mk · _)
        (Named.merge_of_disjoint Section.merge sectionsApart)

theorem parse_textOf
    (file : Text) {blocks : List Block} (distinct : (blocks.map name).Nodup) :
    Outline.parse file (textOf blocks) = outlineOf file blocks := by
  cases blocks with
  | nil => rfl
  | cons first rest =>
      have unbroken : ∀ line ∈ linesOf (first :: rest), '\n' ∉ line := by
        intro line member
        obtain ⟨block, _, inBlock⟩ := List.mem_flatMap.mp member
        exact block.unbroken line inBlock
      have nonempty : linesOf (first :: rest) ≠ [] := by
        rw [linesOf_cons, lines, List.cons_append]
        exact List.cons_ne_nil _ _
      rw [Outline.parse_eq_ofLines, textOf, lines_intercalate unbroken nonempty,
        ofLines_linesOf file distinct]

/-- In another order the blocks make the same parts, in their new rows. -/
theorem outlineOf_reordered
    (file : Text) {blocks reordered : List Block}
    (same : reordered.Perm blocks) :
    (outlineOf file reordered).SameParts
      ((outlineOf file blocks).renumber (movedRow blocks reordered)) := by
  have movedParts :
      reordered.map (outlineIn file reordered) =
        reordered.map fun block =>
          (outlineIn file blocks block).renumber (movedRow blocks reordered) :=
    List.map_congr_left fun block member =>
      (renumber_outlineIn file (same.mem_iff.mp member) reordered).symm
  rw [outlineOf, outlineOf, Outline.renumber_ofParts, List.map_map, movedParts]
  exact Outline.sameParts_ofParts (same.map _)

end Block

end OutlineLint
