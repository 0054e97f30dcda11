import OutlineLint.Finding
import OutlineLint.Outline.Basic

/-!
# Resolution of references

A reference without a dot has to name a section.  In a reference with dots the
first two segments count: the first names a section, and the second names one of
its subsections or is the beginning of one of its items, own or in a subsection.
Names are compared in lower case, and of several sections that a name fits the
first is taken.

Some references belong to a template language and are exempt.
-/

namespace OutlineLint.Resolution

def templateBeginnings : List Text :=
  ["input.".toList, "random".toList, "canonical".toList]

def templateSigns : List Text :=
  ["?.".toList, "(".toList, ")".toList, "|".toList, ['{'], ['}']]

def isConstantCharacter (character : Char) : Bool :=
  character.isUpper || character.isDigit || character = '_'

/-- A trimmed reference that belongs to a template. -/
def isTemplate (trimmed : Text) : Bool :=
  templateBeginnings.any (·.isPrefixOf trimmed)
    || templateSigns.any (Text.holds · trimmed)
    || (!trimmed.isEmpty && trimmed.all isConstantCharacter)

/-- A reference that is never resolved, whatever blanks surround it. -/
def isExempt (reference : Text) : Bool :=
  isTemplate reference.trim

/-- The segment of a reference in the form in which it is compared. -/
def normalizedSegment (segment : Text) : Text :=
  segment.trim.lower

/-- A name that the section knows: a subsection, or the beginning of an item. -/
def sectionKnows (entry : Section) (name : Text) : Bool :=
  entry.subsections.any (fun part => part.name.lower = name)
    || entry.items.any (fun item => name.isPrefixOf item.normalized)
    || entry.subsections.any (fun part =>
        part.items.any (fun item => name.isPrefixOf item.normalized))

/-- What a reference is found to lack, with the segments that say so. -/
def missing? (outline : Outline) (trimmed : Text) :
    Option (ReferenceFault × Option Text × Option Text) :=
  match trimmed.splitOn '.' with
  | first :: second :: _ =>
      let sectionName := normalizedSegment first
      let memberName := normalizedSegment second
      match outline.sectionNamed? sectionName with
      | none => some (.unknownPrefix, some sectionName, none)
      | some entry =>
          if sectionKnows entry memberName then
            none
          else
            some (.suffixNotFound, some sectionName, some memberName)
  | _ =>
      if (outline.sectionNamed? trimmed).isNone then
        some (.unknownSection, none, none)
      else
        none

/-- The finding about a reference that names nothing in the outline. -/
def finding? (outline : Outline) (reference : Reference) : Option Finding :=
  let trimmed := reference.text.trim
  if isExempt trimmed then
    none
  else
    (missing? outline trimmed).map fun (fault, first, second) =>
      ⟨reference.file, reference.position,
        .unresolved fault trimmed first second⟩

def findings (outline : Outline) : List Finding :=
  outline.references.filterMap (finding? outline)

end OutlineLint.Resolution
