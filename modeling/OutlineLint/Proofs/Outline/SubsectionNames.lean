import OutlineLint.Proofs.Outline.Label
import OutlineLint.Proofs.Outline.Rows

/-!
# Names of subsections

A line indented by two spaces opens a subsection exactly if its content is a
phrase, and the subsection is named by the first word of that phrase.  So the
name of every subsection of a text is one word of letters, digits,
underscores, hyphens and apostrophes, however the sections and subsections of
the text are opened again.
-/

namespace OutlineLint

open Layout Label

theorem Layout.word_of_mem_subsectionNames
    {lines : List Text} {sectionName name : Text}
    (member : name ∈ subsectionNames sectionName lines) : Word name := by
  obtain ⟨header, isHeader, rfl⟩ := List.mem_map.mp member
  obtain ⟨line, _, ⟨_, isLabel⟩, isText⟩ :=
    madeIn_of_mem_subsectionHeaders isHeader
  rw [isText]
  exact word_firstWord_of_isLabel isLabel

theorem Outline.word_of_mem_subsections
    {file text : Text} {opened : Section} {part : Subsection}
    (isSection : opened ∈ (Outline.parse file text).sections)
    (isPart : part ∈ opened.subsections) : Word part.name := by
  rw [parse_sections] at isSection
  obtain ⟨sectionName, _, rfl⟩ := (mem_sections_iff _ _).mp isSection
  obtain ⟨name, known, rfl⟩ := (mem_subsections_iff _ _ _).mp isPart
  exact word_of_mem_subsectionNames known

namespace Label

/--
The labels are the phrases.  What is turned away before the words are
looked at does not matter for that, and the words are found as the pattern
of one or two words describes them.  The subsections of a text are named
by words of such phrases.
-/
theorem isLabel_follows_grammar :
    (∀ content : Text,
      (isLabel content = true ↔ Phrase content) ∧
        isLabel content = isOneOrTwoWords content ∧
          isOneOrTwoWords content = pattern.accepts content) ∧
      ∀ (file text : Text), ∀ opened ∈ (Outline.parse file text).sections,
        ∀ part ∈ opened.subsections, Word part.name := by
  constructor
  · intro content
    exact ⟨isLabel_iff content, isLabel_eq_isOneOrTwoWords content,
      isOneOrTwoWords_eq_accepts content⟩
  · intro file text opened isSection part isPart
    exact Outline.word_of_mem_subsections isSection isPart

/--
A section whose one subsection has two words on its header, with
an em space between them.
-/
def closetLines : Text :=
  "closet\n  men's\u2003shoes\n    boots".toList

def mensPart : Subsection :=
  ⟨"men's".toList, ⟨2, 3⟩, [⟨"boots".toList, ⟨3, 5⟩⟩]⟩

def closet : Section :=
  ⟨"closet".toList, [mensPart], [], [], [⟨1, "closet".toList⟩]⟩

/-- The header is a label, and its subsection is named by its first word. -/
theorem mensPart_follows_grammar :
    isLabel "men's\u2003shoes".toList = true ∧
      Phrase "men's\u2003shoes".toList ∧
      closet ∈ (Outline.parse [] closetLines).sections ∧
      mensPart ∈ closet.subsections ∧
        Word mensPart.name := by
  have labelled : isLabel "men's\u2003shoes".toList = true := by decide
  have isSection : closet ∈ (Outline.parse [] closetLines).sections := by
    decide +kernel
  have isPart : mensPart ∈ closet.subsections :=
    List.mem_singleton_self mensPart
  exact
    ⟨labelled, (isLabel_follows_grammar.1 _).1.mp labelled, isSection, isPart,
      isLabel_follows_grammar.2 [] closetLines closet isSection mensPart isPart⟩

end Label

end OutlineLint
