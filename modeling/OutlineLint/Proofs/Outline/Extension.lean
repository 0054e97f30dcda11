import OutlineLint.Outline.Parse

/-!
# Extended outlines

Reading only ever adds.  An extended list of entries has the old entries in
their places, each of them extended, and perhaps further ones behind them.  An
extended section keeps its name, and whatever it had is the beginning of what it
has.

A change of a draft extends the section of one name and leaves the others as
they are.  So the sections after any further lines extend those before.
-/

namespace OutlineLint

/-! ## Extended lists -/

/--
The old entries stand in their places, each extended, before any further ones.
-/
inductive ExtendedList {Entry : Type} (grows : Entry → Entry → Prop) :
    List Entry → List Entry → Prop where
  | further (added : List Entry) : ExtendedList grows [] added
  | kept {old new : Entry} {olds news : List Entry} :
      grows old new → ExtendedList grows olds news →
        ExtendedList grows (old :: olds) (new :: news)

section ExtendedList

variable {Entry : Type} {grows : Entry → Entry → Prop}

theorem ExtendedList.refl
    (same : ∀ entry : Entry, grows entry entry) (entries : List Entry) :
    ExtendedList grows entries entries := by
  induction entries with
  | nil => exact .further []
  | cons entry rest ih => exact .kept (same entry) ih

theorem ExtendedList.trans
    {first second third : List Entry}
    (left : ExtendedList grows first second)
    (right : ExtendedList grows second third)
    (chain : ∀ first second third : Entry,
      grows first second → grows second third → grows first third) :
    ExtendedList grows first third := by
  induction left generalizing third with
  | further added => exact .further third
  | kept headGrows _ ih =>
      cases right with
      | kept laterGrows restExtended =>
          exact .kept (chain _ _ _ headGrows laterGrows) (ih restExtended)

/-- Every old entry has been extended to one of the new entries. -/
theorem ExtendedList.exists_of_mem
    {olds news : List Entry} (extended : ExtendedList grows olds news)
    {old : Entry} (member : old ∈ olds) :
    ∃ new ∈ news, grows old new := by
  induction extended with
  | further added => cases member
  | kept headGrows _ ih =>
      rcases List.mem_cons.mp member with rfl | later
      · exact ⟨_, List.mem_cons_self, headGrows⟩
      · obtain ⟨new, inRest, grown⟩ := ih later
        exact ⟨new, List.mem_cons_of_mem _ inRest, grown⟩

/--
The first old entry with a property that extending keeps is
still the first with it.
-/
theorem ExtendedList.exists_find?
    {olds news : List Entry} (extended : ExtendedList grows olds news)
    {holds : Entry → Bool}
    (keeps : ∀ old new : Entry, grows old new → holds new = holds old)
    {old : Entry} (found : olds.find? holds = some old) :
    ∃ new : Entry, news.find? holds = some new ∧ grows old new := by
  induction extended with
  | further added => cases found
  | kept headGrows _ ih =>
      rw [List.find?_cons] at found ⊢
      rw [keeps _ _ headGrows]
      split at found
      · cases found
        exact ⟨_, rfl, headGrows⟩
      · exact ih found

theorem ExtendedList.flatMap_sublist
    {olds news : List Entry} (extended : ExtendedList grows olds news)
    {α : Type} {parts : Entry → List α}
    (partsGrow :
      ∀ old new : Entry, grows old new → (parts old).Sublist (parts new)) :
    (olds.flatMap parts).Sublist (news.flatMap parts) := by
  induction extended with
  | further added => exact List.nil_sublist _
  | kept headGrows _ ih =>
      rw [List.flatMap_cons, List.flatMap_cons]
      exact (partsGrow _ _ headGrows).append ih

end ExtendedList

/-! ## Changes of one entry -/

/--
Only the entry of the name differs: it has been extended, or it is new and has
been extended from a fresh one.
-/
inductive Named.ExtendedAt {Entry : Type} [Named Entry]
    (grows : Entry → Entry → Prop) (wanted : Text) (fresh : Entry) :
    List Entry → List Entry → Prop where
  | known (before after : List Entry) {old new : Entry} :
      Named.name old = wanted → grows old new →
        ExtendedAt grows wanted fresh (before ++ old :: after)
          (before ++ new :: after)
  | made {entries : List Entry} {new : Entry} :
      (∀ entry ∈ entries, Named.name entry ≠ wanted) → grows fresh new →
        ExtendedAt grows wanted fresh entries (entries ++ [new])

namespace Named

variable {Entry : Type} [Named Entry] {grows : Entry → Entry → Prop}

theorem extendedAt_alter
    (wanted : Text) (fresh : Entry) {change : Entry → Entry}
    (changeGrows : ∀ entry : Entry, grows entry (change entry))
    (entries : List Entry) :
    ExtendedAt grows wanted fresh entries
      (alter wanted fresh change entries) := by
  induction entries with
  | nil => exact .made (by simp) (changeGrows fresh)
  | cons entry rest ih =>
      rw [alter]
      split
      · next isWanted => exact .known [] rest isWanted (changeGrows entry)
      · next other =>
          generalize alter wanted fresh change rest = changed at ih ⊢
          cases ih with
          | known before after isWanted grown =>
              exact .known (entry :: before) after isWanted grown
          | made absent grown =>
              exact .made (List.forall_mem_cons.mpr ⟨other, absent⟩) grown

theorem ExtendedAt.extendedList
    (same : ∀ entry : Entry, grows entry entry) {wanted : Text} {fresh : Entry}
    {olds news : List Entry}
    (extended : ExtendedAt grows wanted fresh olds news) :
    ExtendedList grows olds news := by
  cases extended with
  | @known before after old new _ grown =>
      induction before with
      | nil => exact .kept grown (ExtendedList.refl same after)
      | cons entry before ih => exact .kept (same entry) ih
  | made absent grown =>
      clear absent
      induction olds with
      | nil => exact .further _
      | cons entry rest ih => exact .kept (same entry) ih

end Named

/-! ## Extended sections -/

/-- The subsection is the same, perhaps with further items. -/
structure Subsection.ExtendsTo (old new : Subsection) : Prop where
  name : new.name = old.name
  position : new.position = old.position
  items : old.items <+: new.items

/-- The section is the same, perhaps with more in it. -/
structure Section.ExtendsTo (old new : Section) : Prop where
  name : new.name = old.name
  subsections :
    ExtendedList Subsection.ExtendsTo old.subsections new.subsections
  items : old.items <+: new.items
  repeatedHeaders : old.repeatedHeaders <+: new.repeatedHeaders
  headerLines : old.headerLines <+: new.headerLines

namespace Subsection.ExtendsTo

theorem refl (part : Subsection) : part.ExtendsTo part :=
  ⟨rfl, rfl, List.prefix_rfl⟩

theorem trans {first second third : Subsection}
    (left : first.ExtendsTo second) (right : second.ExtendsTo third) :
    first.ExtendsTo third :=
  ⟨right.name.trans left.name, right.position.trans left.position,
    left.items.trans right.items⟩

end Subsection.ExtendsTo

namespace Section.ExtendsTo

theorem refl (opened : Section) : opened.ExtendsTo opened :=
  ⟨rfl, .refl Subsection.ExtendsTo.refl _, List.prefix_rfl, List.prefix_rfl,
    List.prefix_rfl⟩

theorem trans {first second third : Section}
    (left : first.ExtendsTo second) (right : second.ExtendsTo third) :
    first.ExtendsTo third where
  name := right.name.trans left.name
  subsections :=
    left.subsections.trans right.subsections fun _ _ _ =>
      Subsection.ExtendsTo.trans
  items := left.items.trans right.items
  repeatedHeaders := left.repeatedHeaders.trans right.repeatedHeaders
  headerLines := left.headerLines.trans right.headerLines

/-- Changing one subsection by adding to it extends the section. -/
theorem of_subsections
    (opened : Section) (name : Text) (fresh : Subsection)
    {change : Subsection → Subsection}
    (changeExtends : ∀ part : Subsection, part.ExtendsTo (change part)) :
    opened.ExtendsTo
      { opened with
        subsections := Named.alter name fresh change opened.subsections } :=
  ⟨rfl,
    (Named.extendedAt_alter name fresh changeExtends
        opened.subsections).extendedList
      Subsection.ExtendsTo.refl,
    List.prefix_rfl, List.prefix_rfl, List.prefix_rfl⟩

end Section.ExtendsTo

namespace Section

theorem extendsTo_attach
    (opened : Section) (heading : Option Heading) (item : Item) :
    opened.ExtendsTo (opened.attach heading item) := by
  cases heading with
  | none => exact { ExtendsTo.refl opened with items := List.prefix_append _ _ }
  | some heading =>
      exact .of_subsections opened _ _ fun part =>
        ⟨rfl, rfl, List.prefix_append part.items [item]⟩

theorem extendsTo_enter (opened : Section) (heading : Heading) :
    opened.ExtendsTo (opened.enter heading) :=
  .of_subsections opened _ _ Subsection.ExtendsTo.refl

theorem extendsTo_recordRepeat
    (opened : Section) (header : Item) (firstRow : Int) :
    opened.ExtendsTo (opened.recordRepeat header firstRow) :=
  { ExtendsTo.refl opened with repeatedHeaders := List.prefix_append _ _ }

theorem extendsTo_recordHeaderLine
    (opened : Section) (row : Int) (line : Text) :
    opened.ExtendsTo (opened.recordHeaderLine row line) :=
  { ExtendsTo.refl opened with headerLines := List.prefix_append _ _ }

end Section

/-! ## Extended drafts -/

namespace Draft

/-- Changing a section by adding to it touches no other section. -/
theorem extendedAt_alterSection
    {change : Section → Section}
    (changeExtends : ∀ opened : Section, opened.ExtendsTo (change opened))
    (draft : Draft) (name : Text) :
    Named.ExtendedAt Section.ExtendsTo name (Section.empty name)
      draft.sections (draft.alterSection name change).sections :=
  Named.extendedAt_alter name (Section.empty name) changeExtends draft.sections

theorem extended_alterSection
    {change : Section → Section}
    (changeExtends : ∀ opened : Section, opened.ExtendsTo (change opened))
    (draft : Draft) (name : Text) :
    ExtendedList Section.ExtendsTo draft.sections
      (draft.alterSection name change).sections :=
  (extendedAt_alterSection changeExtends draft name).extendedList
    Section.ExtendsTo.refl

end Draft

end OutlineLint
