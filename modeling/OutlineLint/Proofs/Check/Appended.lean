import OutlineLint.Duplicate
import OutlineLint.Proofs.Outline.Joining
import OutlineLint.Proofs.Outline.Steps
import OutlineLint.Proofs.Resolution.CaseVariants

/-!
# Findings about a text that grows

Lines that are appended to a text extend its outline, wherever they belong: to
the scope that is open at the end of the text, to sections that they open again,
or to new ones.  Every repetition that was found is found again, against the
same first item, and every name that could be looked up leads to the same
section, which knows at least what it knew.

So further lines never withdraw a duplicate.  They may resolve a reference of
the text above them but never break one.
-/

namespace OutlineLint

/-! ## Further lines -/

namespace Draft

theorem extended_take (draft : Draft) (step : Step) :
    ExtendedList Section.ExtendsTo draft.sections
      (draft.take step).sections := by
  cases takes : draft.take? step with
  | none =>
      rw [take, takes]
      exact .refl Section.ExtendsTo.refl draft.sections
  | some next =>
      obtain ⟨place, change, effect, rfl⟩ := exists_effect takes
      rw [take, takes]
      exact extended_alterSection effect.extendsTo draft place.sectionName

theorem extended_read (draft : Draft) (row : Int) (line : Text) :
    ExtendedList Section.ExtendsTo draft.sections
      (draft.read row line).sections := by
  rw [read]
  split
  case h_1 name _ =>
    have opened := draft.extended_take (.openSection name)
    have recorded :=
      extended_alterSection (fun opened =>
          opened.extendsTo_recordHeaderLine row line)
        (draft.openSection name) name
    exact opened.trans recorded fun _ _ _ => Section.ExtendsTo.trans
  case h_2 name content _ =>
    exact draft.extended_take
      (.openSubsection name (Item.ofLine row line content))
  case h_3 content _ =>
    exact draft.extended_take (.attach (Item.ofLine row line content))
  case h_4 => exact .refl Section.ExtendsTo.refl draft.sections

theorem extended_readAll (draft : Draft) (numbered : List (Text × Nat)) :
    ExtendedList Section.ExtendsTo draft.sections
      (draft.readAll numbered).sections := by
  induction numbered generalizing draft with
  | nil => exact .refl Section.ExtendsTo.refl draft.sections
  | cons first rest ih =>
      obtain ⟨line, row⟩ := first
      exact (draft.extended_read row line).trans (ih (draft.read row line))
        fun _ _ _ => Section.ExtendsTo.trans

end Draft

namespace Outline

/--
The sections of a longer text extend those of the text that it begins with.
-/
theorem extended_parse_append (file text more : Text) :
    ExtendedList Section.ExtendsTo (parse file text).sections
      (parse file (text ++ '\n' :: more)).sections := by
  rw [parse, parse, Text.numberedLines_append, Draft.readAll, Draft.readAll,
    List.foldl_append]
  exact Draft.extended_readAll _ _

/--
The references of a longer text are those of its
beginning and some further down.
-/
theorem exists_references_append (file text more : Text) :
    ∃ later : List Reference,
      (parse file (text ++ '\n' :: more)).references =
          (parse file text).references ++ later ∧
        ∀ reference ∈ later, text.lines.length < reference.position.row := by
  refine
    ⟨_, by rw [parse, Text.numberedLines_append, List.flatMap_append]; rfl, ?_⟩
  intro reference member
  obtain ⟨numbered, isLater, onLine⟩ := List.mem_flatMap.mp member
  obtain ⟨⟨line, row⟩, isLine, rfl⟩ := List.mem_map.mp isLater
  have counted : 1 ≤ row := (List.mem_zipIdx isLine).1
  rw [Reference.row_of_mem_onLine onLine]
  change (text.lines.length : Int) < (row + text.lines.length : Nat)
  omega

end Outline

/-! ## Repetitions in an extended outline -/

namespace Duplicate

theorem repetitionsAfter_append
    (seen : List (Text × Int)) (items more : List Item) :
    repetitionsAfter seen items <+: repetitionsAfter seen (items ++ more) := by
  induction items generalizing seen with
  | nil => exact List.nil_prefix
  | cons item rest ih =>
      rw [List.cons_append, repetitionsAfter, repetitionsAfter]
      split
      · exact (List.prefix_cons_inj _).mpr (ih seen)
      · exact ih _

theorem scopeFindings_sublist
    (file scope : Text) {items further : List Item}
    (extended : items <+: further) :
    (scopeFindings file scope items).Sublist
      (scopeFindings file scope further) := by
  obtain ⟨more, rfl⟩ := extended
  exact ((repetitionsAfter_append [] items more).map _).sublist

theorem sectionFindings_sublist
    (file : Text) {old new : Section} (extended : old.ExtendsTo new) :
    (sectionFindings file old).Sublist (sectionFindings file new) := by
  rw [sectionFindings, sectionFindings, extended.name]
  refine List.Sublist.append (List.Sublist.append ?items ?headers) ?parts
  case items => exact scopeFindings_sublist file old.name extended.items
  case headers => exact (extended.repeatedHeaders.map _).sublist
  case parts =>
    apply extended.subsections.flatMap_sublist
    intro part grown partExtended
    rw [partExtended.name]
    exact scopeFindings_sublist file _ partExtended.items

theorem findings_sublist
    (file : Text) {old new : Outline}
    (extended : ExtendedList Section.ExtendsTo old.sections new.sections) :
    (findings file old).Sublist (findings file new) :=
  extended.flatMap_sublist fun _ _ => sectionFindings_sublist file

end Duplicate

/-! ## Look-ups in an extended outline -/

namespace Resolution

/-- There is a finding about the reference at the position. -/
def Flagged (outline : Outline) (position : Position) : Prop :=
  ∃ finding ∈ findings outline, finding.position = position

instance (outline : Outline) (position : Position) :
    Decidable (Flagged outline position) :=
  inferInstanceAs (Decidable (∃ finding ∈ _, _))

/-- An extended section knows whatever it knew. -/
theorem Knows.of_extendsTo
    {old new : Section} (extended : old.ExtendsTo new) {lowered : Text}
    (knows : Knows old lowered) :
    Knows new lowered := by
  rcases knows with ⟨part, isPart, named⟩ | ⟨item, isItem, begins⟩ |
    ⟨part, isPart, item, isItem, begins⟩
  · obtain ⟨grown, isGrown, partExtended⟩ :=
      extended.subsections.exists_of_mem isPart
    rw [← partExtended.name] at named
    exact Or.inl ⟨grown, isGrown, named⟩
  · exact Or.inr (Or.inl ⟨item, extended.items.subset isItem, begins⟩)
  · obtain ⟨grown, isGrown, partExtended⟩ :=
      extended.subsections.exists_of_mem isPart
    exact Or.inr
      (Or.inr ⟨grown, isGrown, item, partExtended.items.subset isItem, begins⟩)

section Extended

variable {old new : Outline}
  (extended : ExtendedList Section.ExtendsTo old.sections new.sections)

include extended

/-- The first section of a name is the same, extended. -/
theorem exists_sectionNamed?
    {name : Text} {entry : Section}
    (found : old.sectionNamed? name = some entry) :
    ∃ grown : Section, new.sectionNamed? name = some grown ∧
      entry.ExtendsTo grown := by
  apply extended.exists_find? _ found
  intro before after grown
  rw [grown.name]

theorem missing?_eq_none_of_extended
    {trimmed : Text} (resolved : missing? old trimmed = none) :
    missing? new trimmed = none := by
  by_cases dotted : '.' ∈ trimmed
  · obtain ⟨first, second, segments⟩ := exists_firstSegments dotted
    rw [missing?_of_firstSegments _ segments] at resolved ⊢
    cases search : old.sectionNamed? first.trim.lower with
    | none => simp [search] at resolved
    | some entry =>
        have knows : sectionKnows entry second.trim.lower = true := by
          simpa [search] using resolved
        obtain ⟨grown, found, entryExtended⟩ :=
          exists_sectionNamed? extended search
        rw [sectionKnows_iff] at knows
        have stillKnows :=
          (sectionKnows_iff grown _).mpr (knows.of_extendsTo entryExtended)
        rw [found]
        exact if_pos stillKnows
  · rw [missing?_of_dotless _ dotted] at resolved ⊢
    cases search : old.sectionNamed? trimmed with
    | none => simp [search] at resolved
    | some entry =>
        obtain ⟨grown, found, _⟩ := exists_sectionNamed? extended search
        rw [found]
        rfl

/--
A reference that is resolved in an outline is resolved in an extended one.
-/
theorem finding?_eq_none_of_extended
    {reference : Reference} (resolved : finding? old reference = none) :
    finding? new reference = none := by
  rw [finding?] at resolved ⊢
  split
  · rfl
  · next kept =>
      rw [if_neg kept, Option.map_eq_none_iff] at resolved
      rw [Option.map_eq_none_iff]
      exact missing?_eq_none_of_extended extended resolved

end Extended

/--
Further lines flag no position above them that was not flagged without them.
-/
theorem Flagged.of_parse_append
    {file text more : Text} {position : Position}
    (flagged : Flagged (Outline.parse file (text ++ '\n' :: more)) position)
    (above : position.row ≤ text.lines.length) :
    Flagged (Outline.parse file text) position := by
  obtain ⟨finding, member, rfl⟩ := flagged
  obtain ⟨reference, isReference, found⟩ := List.mem_filterMap.mp member
  have place := ((finding?_eq_some_iff _ _ _).mp found).position_eq
  obtain ⟨later, referencesEq, below⟩ :=
    Outline.exists_references_append file text more
  rw [referencesEq, List.mem_append] at isReference
  rcases isReference with isAbove | isLater
  · have extended := Outline.extended_parse_append file text more
    cases search : finding? (Outline.parse file text) reference with
    | none =>
        rw [finding?_eq_none_of_extended extended search] at found
        cases found
    | some earlier =>
        refine
          ⟨earlier, List.mem_filterMap.mpr ⟨reference, isAbove, search⟩, ?_⟩
        rw [place]
        exact ((finding?_eq_some_iff _ _ _).mp search).position_eq
  · have isBelow := below reference isLater
    rw [place] at above
    omega

end Resolution

/-! ## Further lines and findings -/

/--
Below a text further lines withdraw no duplicate that was found in it and break
no reference of it that was resolved.
-/
theorem Outline.findings_parse_append (file text more : Text) :
    (Duplicate.findings file (Outline.parse file text)).Sublist
        (Duplicate.findings file (Outline.parse file (text ++ '\n' :: more))) ∧
      ∀ position : Position,
        position.row ≤ text.lines.length →
          Resolution.Flagged (Outline.parse file (text ++ '\n' :: more))
              position →
            Resolution.Flagged (Outline.parse file text) position := by
  constructor
  · exact Duplicate.findings_sublist file (extended_parse_append file text more)
  · intro position above flagged
    exact flagged.of_parse_append above

/-- Its references are in rows 4 and 5, and row 3 repeats row 2. -/
def Outline.drinks : Text :=
  "tea\n    hot\n    Hot\n    [tea.iced]\n    [milk]".toList

/-- The line goes on in the section that is open at the end of the text. -/
def Outline.furtherDrinks : Text :=
  "    iced".toList

/--
The further line resolves the reference in row 4, and the one
in row 5 stays unresolved.
-/
theorem Outline.findings_parse_drinks :
    (Duplicate.findings [] (parse [] drinks)).Sublist
        (Duplicate.findings [] (parse [] (drinks ++ '\n' :: furtherDrinks))) ∧
      Resolution.Flagged (parse [] drinks) ⟨4, 5⟩ ∧
        ¬ Resolution.Flagged (parse [] (drinks ++ '\n' :: furtherDrinks))
            ⟨4, 5⟩ ∧
          Resolution.Flagged (parse [] (drinks ++ '\n' :: furtherDrinks))
              ⟨5, 5⟩ ∧
            Resolution.Flagged (parse [] drinks) ⟨5, 5⟩ := by
  obtain ⟨kept, unflagged⟩ := findings_parse_append [] drinks furtherDrinks
  have above : (5 : Int) ≤ drinks.lines.length := by decide +kernel
  have flagged :
      Resolution.Flagged (parse [] (drinks ++ '\n' :: furtherDrinks))
          ⟨5, 5⟩ := by
    decide +kernel
  exact ⟨kept, by decide +kernel, by decide +kernel, flagged,
    unflagged ⟨5, 5⟩ above flagged⟩

end OutlineLint
