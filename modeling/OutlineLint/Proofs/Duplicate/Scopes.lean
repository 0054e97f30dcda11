import OutlineLint.Proofs.Duplicate.Justified
import OutlineLint.Proofs.Outline.SubsectionNames
import OutlineLint.Proofs.Text.Decimal

/-!
# What the label of a scope tells

The scope of a duplicate is shown as the name of a section, or as the names of a
section and of one of its subsections with a dot between them.  No subsection
has a dot in its name, but a section may have one.  So the label tells two
sections apart, and two subsections.  A section whose name has a dot can be
labelled like a subsection of another section, and that is the only way in which
two scopes of one text have the same label.
-/

namespace OutlineLint

/-- The scope that a duplicate is shown in. -/
def Finding.shownScope? (finding : Finding) : Option Text :=
  match finding.detail with
  | .duplicate scope _ _ => some scope
  | _ => none

namespace Duplicate

open Layout

/--
The items of a section that are in none of its subsections,
or those of a subsection.
-/
structure Scope where
  opened : Section
  part : Option Subsection
  deriving DecidableEq

namespace Scope

def label (scope : Scope) : Text :=
  match scope.part with
  | none => scope.opened.name
  | some part => subsectionScope scope.opened.name part.name

def repetitions (scope : Scope) : List Repetition :=
  match scope.part with
  | none =>
      Duplicate.repetitions scope.opened.items
        ++ scope.opened.repeatedHeaders.map fun again =>
          ⟨again.header, again.firstRow⟩
  | some part => Duplicate.repetitions part.items

/-- The duplicates that are found in the scope. -/
def findings (file : Text) (scope : Scope) : List Finding :=
  scope.repetitions.map (Repetition.finding file scope.label)

/--
The name of the one section reads like the name of the other
and of a subsection of it.
-/
def ReadsLike (own inner : Scope) : Prop :=
  own.part = none ∧
    ∃ part : Subsection,
      inner.part = some part ∧
        own.opened.name = inner.opened.name ++ '.' :: part.name

theorem shownScope?_of_mem
    {file : Text} {scope : Scope} {finding : Finding}
    (member : finding ∈ scope.findings file) :
    finding.shownScope? = some scope.label := by
  obtain ⟨repetition, _, rfl⟩ := List.mem_map.mp member
  rfl

end Scope

/-- The scopes of a section, its own before those of its subsections. -/
def sectionScopes (opened : Section) : List Scope :=
  ⟨opened, none⟩ :: opened.subsections.map fun part => ⟨opened, some part⟩

def scopes (outline : Outline) : List Scope :=
  outline.sections.flatMap sectionScopes

/-- The duplicates of an outline are those of its scopes, in their order. -/
theorem findings_eq_flatMap_scopes (file : Text) (outline : Outline) :
    findings file outline = (scopes outline).flatMap (Scope.findings file) := by
  rw [findings, scopes, List.flatMap_assoc]
  apply List.flatMap_congr
  intro opened _
  rw [sectionFindings, sectionScopes, List.flatMap_cons, List.flatMap_map]
  congr 1
  rw [Scope.findings, Scope.repetitions, List.map_append, List.map_map]
  rfl

/-! ## Scopes of a text -/

theorem dot_not_mem_of_mem_subsectionNames
    {lines : List Text} {sectionName name : Text}
    (member : name ∈ subsectionNames sectionName lines) : '.' ∉ name :=
  (word_of_mem_subsectionNames member).not_mem (by decide)

/-- The label of a subsection is taken apart at its last dot. -/
theorem subsectionScope_inj
    {sectionName otherSection name other : Text} (dotless : '.' ∉ name)
    (otherDotless : '.' ∉ other)
    (same :
      subsectionScope sectionName name = subsectionScope otherSection other) :
    sectionName = otherSection ∧ name = other := by
  have inRun {text : Text} (noDot : '.' ∉ text) :
      ∀ character ∈ text.reverse, decide (character ≠ '.') = true := by
    intro character member
    rw [decide_eq_true_eq]
    rintro rfl
    exact noDot (List.mem_reverse.mp member)
  have reversed :
      name.reverse ++ '.' :: sectionName.reverse =
        other.reverse ++ '.' :: otherSection.reverse := by
    simpa [subsectionScope] using congrArg List.reverse same
  obtain ⟨sameName, _, sameSection⟩ :=
    Text.append_cons_inj (inRun dotless) (inRun otherDotless) rfl rfl reversed
  exact ⟨List.reverse_injective sameSection, List.reverse_injective sameName⟩

/-- A scope of a text is known by its names. -/
theorem mem_scopes_parse
    {file text : Text} {scope : Scope}
    (member : scope ∈ scopes (Outline.parse file text)) :
    ∃ sectionName : Text,
      scope = ⟨sectionOf text.lines sectionName, none⟩ ∨
        ∃ name ∈ subsectionNames sectionName text.lines,
          scope = ⟨sectionOf text.lines sectionName,
            some (subsectionOf sectionName text.lines name)⟩ := by
  obtain ⟨opened, isSection, inSection⟩ := List.mem_flatMap.mp member
  rw [parse_sections] at isSection
  obtain ⟨sectionName, _, rfl⟩ := (mem_sections_iff _ _).mp isSection
  refine ⟨sectionName, ?_⟩
  rcases List.mem_cons.mp inSection with rfl | inParts
  · exact Or.inl rfl
  · obtain ⟨part, isPart, rfl⟩ := List.mem_map.mp inParts
    obtain ⟨name, known, rfl⟩ := (mem_subsections_iff _ _ _).mp isPart
    exact Or.inr ⟨name, known, rfl⟩

/--
Two scopes of a text have one label only if they are one, or if
a dotted name is read so.
-/
theorem label_eq_iff
    {file text : Text} {first second : Scope}
    (isScope : first ∈ scopes (Outline.parse file text))
    (isOther : second ∈ scopes (Outline.parse file text)) :
    first.label = second.label ↔
      first = second ∨ first.ReadsLike second ∨ second.ReadsLike first := by
  constructor
  · intro same
    obtain ⟨sectionName, rfl | ⟨name, known, rfl⟩⟩ :=
      mem_scopes_parse isScope <;>
        obtain ⟨otherSection, rfl | ⟨other, otherKnown, rfl⟩⟩ :=
          mem_scopes_parse isOther
    · have sameSection : sectionName = otherSection := same
      rw [sameSection]
      exact Or.inl rfl
    · exact Or.inr (Or.inl ⟨rfl, _, rfl, same⟩)
    · exact Or.inr (Or.inr ⟨rfl, _, rfl, same.symm⟩)
    · obtain ⟨rfl, rfl⟩ :=
        subsectionScope_inj (dot_not_mem_of_mem_subsectionNames known)
          (dot_not_mem_of_mem_subsectionNames otherKnown) same
      exact Or.inl rfl
  · obtain ⟨opened, part⟩ := first
    obtain ⟨otherOpened, otherPart⟩ := second
    rintro (same | ⟨own, inner, isInner, named⟩ | ⟨own, inner, isInner, named⟩)
    · rw [same]
    · cases own
      cases isInner
      exact named
    · cases own
      cases isInner
      exact named.symm

/-! ## Two scopes with one label -/

/--
A section with a subsection, and a section whose name is
that of both with a dot.
-/
def dottedDrinks : Text :=
  "drinks\n  hot\n    tea, black\n    tea, black\ndrinks.hot\n    milk, warm\n    milk, warm".toList

/-- The subsection of the first section. -/
def hotPart : Scope :=
  ⟨sectionOf dottedDrinks.lines "drinks".toList,
    some (subsectionOf "drinks".toList dottedDrinks.lines "hot".toList)⟩

/-- The second section. -/
def dottedSection : Scope :=
  ⟨sectionOf dottedDrinks.lines "drinks.hot".toList, none⟩

theorem hotPart_mem : hotPart ∈ scopes (Outline.parse [] dottedDrinks) := by
  decide +kernel

theorem dottedSection_mem :
    dottedSection ∈ scopes (Outline.parse [] dottedDrinks) := by
  decide +kernel

/--
The duplicates of a text are those of its scopes, and each shows the
label of its scope.  Two scopes have one label exactly if they are the
same, or if one is a section whose name reads like the section and the
subsection that are the other.
-/
theorem scopes_told_apart (file text : Text) :
    findings file (Outline.parse file text) =
        (scopes (Outline.parse file text)).flatMap (Scope.findings file) ∧
      (∀ scope ∈ scopes (Outline.parse file text),
        ∀ finding ∈ scope.findings file,
        finding.shownScope? = some scope.label) ∧
        ∀ first ∈ scopes (Outline.parse file text),
          ∀ second ∈ scopes (Outline.parse file text),
          (first.label = second.label ↔
            first = second ∨ first.ReadsLike second ∨ second.ReadsLike first) :=
  ⟨findings_eq_flatMap_scopes file (Outline.parse file text),
    fun _ _ _ member => Scope.shownScope?_of_mem member,
    fun _ isScope _ isOther => label_eq_iff isScope isOther⟩

/-- The two scopes have one label, and the second reads like the first. -/
theorem dottedSection_reads_like_hotPart :
    hotPart ∈ scopes (Outline.parse [] dottedDrinks) ∧
      dottedSection ∈ scopes (Outline.parse [] dottedDrinks) ∧
      hotPart.label = dottedSection.label ∧
      dottedSection.ReadsLike hotPart := by
  have same : hotPart.label = dottedSection.label := by decide +kernel
  refine ⟨hotPart_mem, dottedSection_mem, same, ?_⟩
  rcases ((scopes_told_apart [] dottedDrinks).2.2 _ hotPart_mem _
      dottedSection_mem).mp same with one | hotReads | dottedReads
  · cases congrArg Scope.part one
  · cases hotReads.1
  · exact dottedReads

/-- Duplicates of two sections can show one scope. -/
theorem two_sections_show_one_scope :
    ¬ ∀ (file text : Text) (first second : Scope) (finding other : Finding),
      first ∈ scopes (Outline.parse file text) → finding ∈ first.findings file →
      second ∈ scopes (Outline.parse file text) → other ∈ second.findings file →
      finding.shownScope? = other.shownScope? →
      first.opened = second.opened := by
  intro always
  have sameSection :=
    always [] dottedDrinks hotPart dottedSection
      ⟨[], ⟨4, 5⟩, .duplicate "drinks.hot".toList "tea, black".toList 3⟩
      ⟨[], ⟨7, 5⟩, .duplicate "drinks.hot".toList "milk, warm".toList 6⟩
      hotPart_mem (by decide +kernel) dottedSection_mem (by decide +kernel) rfl
  have sameName := congrArg Section.name sameSection
  revert sameName
  decide

end Duplicate

end OutlineLint
