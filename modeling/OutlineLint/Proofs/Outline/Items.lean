import OutlineLint.Proofs.Outline.Reading

/-!
# The items of a draft

Every item that a draft holds, over all sections and their subsections.  Up to
order, changing the draft adds exactly the items that are attached, so reading
loses no item and makes none twice.
-/

namespace OutlineLint

/-- The items of a section, those of its subsections included. -/
def Section.allItems (opened : Section) : List Item :=
  opened.items ++ opened.subsections.flatMap Subsection.items

def Draft.allItems (draft : Draft) : List Item :=
  draft.sections.flatMap Section.allItems

/--
A change that adds the same items to every entry adds them once to a list of
named entries, whether the entry of the name is there or is made from nothing.
-/
theorem Named.flatMap_alter_perm
    {Entry : Type} [Named Entry] {wanted : Text} {fresh : Entry}
    {change : Entry → Entry} {itemsOf : Entry → List Item} {added : List Item}
    (fromNothing : itemsOf fresh = [])
    (grows :
      ∀ entry : Entry, (itemsOf (change entry)).Perm (itemsOf entry ++ added))
    (entries : List Entry) :
    ((Named.alter wanted fresh change entries).flatMap itemsOf).Perm
      (entries.flatMap itemsOf ++ added) := by
  induction entries with
  | nil => simpa [Named.alter, fromNothing] using grows fresh
  | cons entry rest ih =>
      rw [Named.alter]
      split
      · have moved :
            (added ++ rest.flatMap itemsOf).Perm
                (rest.flatMap itemsOf ++ added) :=
          List.perm_append_comm
        have changed := (grows entry).append_right (rest.flatMap itemsOf)
        rw [List.append_assoc] at changed
        rw [List.flatMap_cons, List.flatMap_cons, List.append_assoc]
        exact changed.trans (moved.append_left (itemsOf entry))
      · rw [List.flatMap_cons, List.flatMap_cons, List.append_assoc]
        exact ih.append_left (itemsOf entry)

namespace Section

theorem allItems_attach
    (opened : Section) (heading : Option Heading) (item : Item) :
    (opened.attach heading item).allItems.Perm (opened.allItems ++ [item]) := by
  cases heading with
  | none =>
      have moved :
          ([item] ++ opened.subsections.flatMap Subsection.items).Perm
            (opened.subsections.flatMap Subsection.items ++ [item]) :=
        List.perm_append_comm
      rw [attach, allItems, allItems, List.append_assoc, List.append_assoc]
      exact moved.append_left opened.items
  | some heading =>
      have attached :
          ((opened.attach heading item).subsections.flatMap
              Subsection.items).Perm
            (opened.subsections.flatMap Subsection.items ++ [item]) :=
        Named.flatMap_alter_perm rfl
          (fun _ => List.Perm.refl _) opened.subsections
      rw [allItems, allItems, List.append_assoc]
      exact attached.append_left opened.items

theorem allItems_enter (opened : Section) (heading : Heading) :
    (opened.enter heading).allItems.Perm opened.allItems := by
  have entered :
      ((opened.enter heading).subsections.flatMap Subsection.items).Perm
        (opened.subsections.flatMap Subsection.items ++ []) :=
    Named.flatMap_alter_perm rfl (fun part => by simp) opened.subsections
  rw [List.append_nil] at entered
  exact entered.append_left opened.items

@[simp]
theorem allItems_recordRepeat
    (opened : Section) (header : Item) (firstRow : Int) :
    (opened.recordRepeat header firstRow).allItems = opened.allItems :=
  rfl

@[simp]
theorem allItems_recordHeaderLine (opened : Section) (row : Int) (line : Text) :
    (opened.recordHeaderLine row line).allItems = opened.allItems :=
  rfl

end Section

namespace Draft

open OutlineLine

theorem allItems_alterSection
    {change : Section → Section} {added : List Item}
    (grows :
      ∀ opened : Section,
        (change opened).allItems.Perm (opened.allItems ++ added))
    (draft : Draft) (name : Text) :
    (draft.alterSection name change).allItems.Perm (draft.allItems ++ added) :=
  Named.flatMap_alter_perm rfl grows draft.sections

theorem allItems_alterSection_of_same
    {change : Section → Section}
    (same : ∀ opened : Section, (change opened).allItems.Perm opened.allItems)
    (draft : Draft) (name : Text) :
    (draft.alterSection name change).allItems.Perm draft.allItems := by
  have unchanged (opened : Section) :
      (change opened).allItems.Perm (opened.allItems ++ []) := by
    rw [List.append_nil]
    exact same opened
  simpa using allItems_alterSection unchanged draft name

theorem allItems_openSection (draft : Draft) (name : Text) :
    (draft.openSection name).allItems.Perm draft.allItems :=
  allItems_alterSection_of_same (fun _ => List.Perm.refl _) draft name

theorem allItems_openSubsection?
    {draft next : Draft} {name : Text} {header : Item}
    (opens : draft.openSubsection? name header = some next) :
    next.allItems.Perm draft.allItems := by
  have entered (sectionName : Text) :
      (openSubsection?.enter draft sectionName ⟨name, header⟩).allItems.Perm
        draft.allItems :=
    allItems_alterSection_of_same (fun opened => opened.allItems_enter _) draft
      sectionName
  rw [openSubsection?] at opens
  split at opens
  · cases opens
  · cases opens
    exact entered _
  · split at opens
    · cases opens
      exact allItems_alterSection_of_same (fun opened => by simp) draft _
    · cases opens
      exact entered _

theorem allItems_attach?
    {draft next : Draft} {item : Item}
    (attaches : draft.attach? item = some next) :
    next.allItems.Perm (draft.allItems ++ [item]) := by
  rw [attach?] at attaches
  split at attaches
  · cases attaches
  · cases attaches
    exact allItems_alterSection
      (fun opened => opened.allItems_attach _ item) draft _

theorem attach?_eq_none_iff (draft : Draft) (item : Item) :
    draft.attach? item = none ↔ draft.place = none := by
  cases isPlace : draft.place <;> simp [attach?, isPlace]

/--
A line adds one item if it is an entry in an open section, and none otherwise.
-/
theorem allItems_read (draft : Draft) (row : Int) (line : Text) :
    (draft.read row line).allItems.Perm
      (draft.allItems ++
        if IsEntry line ∧ draft.place ≠ none then
          [Item.ofLine row line line.trim]
        else
          []) := by
  rcases ofText_cases line with isHeader | isHeader | isEntry | isIgnored
  · have notEntry : ¬ IsEntry line := by simp [isEntry_iff, isHeader]
    have recorded :
        ((draft.openSection line.firstWord).alterSection line.firstWord
            (·.recordHeaderLine row line)).allItems.Perm
          (draft.openSection line.firstWord).allItems :=
      allItems_alterSection_of_same (fun opened => by simp) _ _
    rw [read, isHeader, if_neg (fun both => notEntry both.1), List.append_nil]
    exact recorded.trans (draft.allItems_openSection line.firstWord)
  · have notEntry : ¬ IsEntry line := by simp [isEntry_iff, isHeader]
    rw [read, isHeader, if_neg (fun both => notEntry both.1), List.append_nil]
    dsimp only
    cases opens : draft.openSubsection? line.firstWord
      (Item.ofLine row line line.trim) with
    | none => exact List.Perm.refl _
    | some next => exact allItems_openSubsection? opens
  · rw [read, isEntry]
    dsimp only
    cases attaches : draft.attach? (Item.ofLine row line line.trim) with
    | none =>
        rw [attach?_eq_none_iff] at attaches
        simp [attaches]
    | some next =>
        have somewhere : draft.place ≠ none := by
          intro nowhere
          rw [(draft.attach?_eq_none_iff _).mpr nowhere] at attaches
          cases attaches
        rw [if_pos ⟨(isEntry_iff line).mpr isEntry, somewhere⟩]
        exact allItems_attach? attaches
  · have notEntry : ¬ IsEntry line := by simp [isEntry_iff, isIgnored]
    rw [read, isIgnored, if_neg (fun both => notEntry both.1), List.append_nil]

end Draft

namespace Layout

open OutlineLine

/-- The items of the entries that stand below a section header. -/
def allEntries (lines : List Text) : List Item :=
  collect
    (fun above line =>
      if IsEntry line ∧ sectionAbove? above ≠ none then some (itemOf above line)
        else none)
    lines

/--
The sections hold every entry below a section header once, and nothing else.
-/
theorem allItems_draft (lines : List Text) :
    (draft lines).allItems.Perm (allEntries lines) := by
  induction lines using List.reverseRecOn with
  | nil => exact List.Perm.nil
  | append_singleton lines line ih =>
      have somewhere :
          (draft lines).place ≠ none ↔ sectionAbove? lines ≠ none := by
        simp [draft, place?]
      have grows := (draft lines).allItems_read (lines.length + 1 : Nat) line
      rw [read_draft] at grows
      rw [allEntries, collect_snoc]
      refine grows.trans (ih.append ?_)
      simp only [somewhere]
      split <;> exact List.Perm.refl _

end Layout

end OutlineLint
