import OutlineLint.Outline.Basic
import OutlineLint.Proofs.Outline.Collect

/-!
# Merging outlines

An outline can be put below other lines, which moves all its rows down, and it
can be merged with an outline that comes before it.  A section that both have
keeps its place in the first outline and gets everything that the second has
for it, and so does a subsection that both sections have.  Sections and
subsections of the second alone follow those of the first, in their order.
-/

namespace OutlineLint

/-! ## Below other lines -/

def Position.below (position : Position) (lines : Nat) : Position :=
  { position with row := position.row + lines }

def Item.below (item : Item) (lines : Nat) : Item :=
  { item with position := item.position.below lines }

def Reference.below (reference : Reference) (lines : Nat) : Reference :=
  { reference with position := reference.position.below lines }

def RepeatedHeader.below
    (again : RepeatedHeader) (lines : Nat) : RepeatedHeader :=
  ⟨again.header.below lines, again.firstRow + lines⟩

def HeaderLine.below (headerLine : HeaderLine) (lines : Nat) : HeaderLine :=
  { headerLine with row := headerLine.row + lines }

def Subsection.below (part : Subsection) (lines : Nat) : Subsection :=
  { part with
    position := part.position.below lines
    items := part.items.map (·.below lines) }

def Section.below (opened : Section) (lines : Nat) : Section :=
  { opened with
    subsections := opened.subsections.map (·.below lines)
    items := opened.items.map (·.below lines)
    repeatedHeaders := opened.repeatedHeaders.map (·.below lines)
    headerLines := opened.headerLines.map (·.below lines) }

/-- The outline with all its rows that many lines further down. -/
def Outline.below (outline : Outline) (lines : Nat) : Outline :=
  ⟨outline.sections.map (·.below lines), outline.references.map (·.below lines)⟩

/-! ## Merging -/

/--
The entries of the first list, each combined with the entry of its name in the
second, and after them the entries of the second that have new names.
-/
def Named.merge {Entry : Type} [Named Entry] (combine : Entry → Entry → Entry)
    (first second : List Entry) : List Entry :=
  first.map (fun entry =>
      (Named.find? (Named.name entry) second).elim entry (combine entry))
    ++ second.filter fun entry => Named.name entry ∉ first.map Named.name

/--
The items of the second follow those of the first, which keeps its position.
-/
def Subsection.merge (first second : Subsection) : Subsection :=
  { first with items := first.items ++ second.items }

def Section.merge (first second : Section) : Section :=
  { first with
    subsections :=
      Named.merge Subsection.merge first.subsections second.subsections
    items := first.items ++ second.items
    repeatedHeaders := first.repeatedHeaders ++ second.repeatedHeaders
    headerLines := first.headerLines ++ second.headerLines }

/-- The outline that goes on with the second outline where the first ends. -/
def Outline.merge (first second : Outline) : Outline :=
  ⟨Named.merge Section.merge first.sections second.sections,
    first.references ++ second.references⟩

/-! ## Lists with one entry for each name -/

namespace Named

variable {Entry : Type} [Named Entry]

@[simp]
theorem merge_nil_left (combine : Entry → Entry → Entry) (second : List Entry) :
    merge combine [] second = second := by
  simp [merge]

@[simp]
theorem merge_nil_right (combine : Entry → Entry → Entry) (first : List Entry) :
    merge combine first [] = first := by
  simp [merge, find?]

/-- Entries with new names follow those of the first list. -/
theorem merge_of_disjoint
    (combine : Entry → Entry → Entry) {first second : List Entry}
    (disjoint : ∀ entry ∈ second, name entry ∉ first.map name) :
    merge combine first second = first ++ second := by
  have firstKept :
      first.map (fun entry =>
        (find? (name entry) second).elim entry (combine entry)) = first := by
    conv_rhs => rw [← List.map_id first]
    apply List.map_congr_left
    intro entry member
    have absent : find? (name entry) second = none := by
      rw [find?, List.find?_eq_none]
      intro other inSecond same
      rw [decide_eq_true_eq] at same
      exact disjoint other inSecond (same ▸ List.mem_map_of_mem member)
    rw [absent]
    rfl
  have secondKept :
      second.filter (fun entry => name entry ∉ first.map name) = second := by
    rw [List.filter_eq_self]
    intro entry member
    exact decide_eq_true (disjoint entry member)
  rw [merge, firstKept, secondKept]

theorem find?_map_of_named
    {entryOf : Text → Entry}
    (named : ∀ other : Text, name (entryOf other) = other)
    (wanted : Text) (names : List Text) :
    find? wanted (names.map entryOf) =
      if wanted ∈ names then some (entryOf wanted) else none := by
  induction names with
  | nil => rfl
  | cons first rest ih =>
      rw [find?] at ih ⊢
      by_cases same : first = wanted
      · simp [same, named]
      · have other : ¬ wanted = first := fun equal => same equal.symm
        rw [List.map_cons, List.find?_cons_of_neg (by simpa [named] using same),
          ih]
        simp [other]

/--
Merging lists that have one entry for each distinct name gives such a list for
all names, in the order of their first occurrences.
-/
theorem merge_map_eraseDups
    {combine : Entry → Entry → Entry} (firstNames secondNames : List Text)
    {firstOf secondOf mergedOf : Text → Entry}
    (firstNamed : ∀ other : Text, name (firstOf other) = other)
    (secondNamed : ∀ other : Text, name (secondOf other) = other)
    (inBoth : ∀ other ∈ firstNames, other ∈ secondNames →
      combine (firstOf other) (secondOf other) = mergedOf other)
    (inFirst :
      ∀ other ∈ firstNames, other ∉ secondNames →
        firstOf other = mergedOf other)
    (inSecond :
      ∀ other ∈ secondNames, other ∉ firstNames →
        secondOf other = mergedOf other) :
    merge combine (firstNames.eraseDups.map firstOf)
        (secondNames.eraseDups.map secondOf) =
      (firstNames ++ secondNames).eraseDups.map mergedOf := by
  have keptNames :
      (firstNames.eraseDups.map firstOf).map name = firstNames.eraseDups := by
    rw [List.map_map]
    exact (List.map_congr_left fun other _ => firstNamed other).trans
      (List.map_id _)
  have newNames :
      (secondNames.removeAll firstNames).eraseDups =
        secondNames.eraseDups.filter fun other => other ∉ firstNames := by
    rw [List.removeAll, Layout.eraseDups_filter]
    apply List.filter_congr
    intro other _
    simp
  rw [merge, keptNames, List.eraseDups_append, List.map_append, newNames,
    List.map_map, List.filter_map]
  congr 1
  · apply List.map_congr_left
    intro other member
    rw [List.mem_eraseDups] at member
    rw [Function.comp_apply, firstNamed, find?_map_of_named secondNamed]
    by_cases shared : other ∈ secondNames
    · rw [if_pos (List.mem_eraseDups.mpr shared)]
      exact inBoth other member shared
    · rw [if_neg (fun again => shared (List.mem_eraseDups.mp again))]
      exact inFirst other member shared
  · have sameFilter :
        (secondNames.eraseDups.filter
            ((fun entry => decide (name entry ∉ firstNames.eraseDups)) ∘
              secondOf)) =
          secondNames.eraseDups.filter fun other => other ∉ firstNames := by
      apply List.filter_congr
      intro other _
      simp [secondNamed]
    rw [sameFilter]
    apply List.map_congr_left
    intro other member
    obtain ⟨inNames, new⟩ := List.mem_filter.mp member
    exact inSecond other (List.mem_eraseDups.mp inNames) (by simpa using new)

end Named

end OutlineLint
