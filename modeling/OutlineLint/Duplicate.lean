import OutlineLint.Finding
import OutlineLint.Outline.Basic

/-!
# Duplicate entries

The items of a section and those of each of its subsections are scopes of their
own.  Within a scope an item is a duplicate if an earlier item has the same
normalized text, and it is reported against the first such item.  The headers
that a section recorded as repeated are reported in the section's scope, after
its own items.
-/

namespace OutlineLint.Duplicate

/--
An item that repeats another, and the row of the first with
the same normalized text.
-/
structure Repetition where
  item : Item
  firstRow : Int
  deriving DecidableEq, Repr

/--
The repetitions among items, given the normalized texts
seen before and their rows.
-/
def repetitionsAfter (seen : List (Text × Int)) : List Item → List Repetition
  | [] => []
  | item :: rest =>
      match seen.lookup item.normalized with
      | some firstRow => ⟨item, firstRow⟩ :: repetitionsAfter seen rest
      | none =>
          repetitionsAfter ((item.normalized, item.position.row) :: seen) rest

def repetitions (items : List Item) : List Repetition :=
  repetitionsAfter [] items

def Repetition.finding
    (file scope : Text) (repetition : Repetition) : Finding :=
  ⟨file, repetition.item.position,
    .duplicate scope repetition.item.text repetition.firstRow⟩

def scopeFindings (file scope : Text) (items : List Item) : List Finding :=
  (repetitions items).map (Repetition.finding file scope)

def subsectionScope (sectionName subsectionName : Text) : Text :=
  sectionName ++ '.' :: subsectionName

def sectionFindings (file : Text) (entry : Section) : List Finding :=
  scopeFindings file entry.name entry.items
    ++ entry.repeatedHeaders.map (fun again =>
        Repetition.finding file entry.name ⟨again.header, again.firstRow⟩)
    ++ entry.subsections.flatMap (fun part =>
        scopeFindings file (subsectionScope entry.name part.name) part.items)

def findings (file : Text) (outline : Outline) : List Finding :=
  outline.sections.flatMap (sectionFindings file)

end OutlineLint.Duplicate
