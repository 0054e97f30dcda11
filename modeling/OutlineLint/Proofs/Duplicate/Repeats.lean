import Mathlib.Data.List.Forall2
import OutlineLint.Duplicate
import OutlineLint.Proofs.Outline.Collect

/-!
# Repeats within a scope

`ReportsScope` says which findings the items of a scope have, without a table of
texts seen before: each item that has an earlier one of the same text is
compared with the earliest such item of its scope.  `ReportsSection` puts the
scopes of a section in their order.

The detector goes through the items once and keeps the row of the first item of
each text.  Its findings are exactly the reports of the sections, in the order
of the outline.
-/

namespace OutlineLint.Duplicate

/-! ## What is reported -/

/-- The items say the same, apart from case and outer blanks. -/
def SameText (first second : Item) : Prop :=
  first.text.trim.lower = second.text.trim.lower

instance (first second : Item) : Decidable (SameText first second) :=
  inferInstanceAs (Decidable (_ = _))

theorem sameText_iff (first second : Item) :
    SameText first second ↔ first.normalized = second.normalized :=
  Iff.rfl

/-- One of the items before the given index has the text of the item. -/
def HasEarlier (items : List Item) (item : Item) (index : Nat) : Prop :=
  ∃ other ∈ items.take index, SameText other item

instance (items : List Item) (item : Item) (index : Nat) :
    Decidable (HasEarlier items item index) :=
  inferInstanceAs (Decidable (∃ other ∈ _, _))

/-- The first of the items that has the text of the given one. -/
def IsEarliest (items : List Item) (item first : Item) : Prop :=
  ∃ before after : List Item,
    items = before ++ first :: after ∧ SameText first item ∧
      ∀ other ∈ before, ¬ SameText other item

theorem IsEarliest.mem_and_sameText {items : List Item} {item first : Item}
    (isEarliest : IsEarliest items item first) :
    first ∈ items ∧ SameText first item := by
  obtain ⟨before, after, rfl, same, _⟩ := isEarliest
  exact ⟨by simp, same⟩

theorem IsEarliest.append {items : List Item} {item first : Item}
    (isEarliest : IsEarliest items item first) (more : List Item) :
    IsEarliest (items ++ more) item first := by
  obtain ⟨before, after, rfl, same, others⟩ := isEarliest
  exact ⟨before, after ++ more, by simp, same, others⟩

/--
The finding compares the item with the earliest item of its text in the scope.
-/
def ComparesWithEarliest
    (file scope : Text) (items : List Item) (item : Item)
    (finding : Finding) : Prop :=
  ∃ first : Item,
    IsEarliest items item first ∧
      finding =
        ⟨file, item.position, .duplicate scope item.text first.position.row⟩

/-- The findings are those of the items of one scope. -/
structure ReportsScope
    (file scope : Text) (items : List Item) (report : List Finding) : Prop where
  /--
  The findings belong one by one to the items with an
  earlier item of the same text.
  -/
  repeats :
    List.Forall₂
      (fun (numbered : Item × Nat) finding =>
        ComparesWithEarliest file scope items numbered.1 finding)
      (items.zipIdx.filter fun (item, index) => HasEarlier items item index)
      report
  count :
    report.length +
        (items.map fun item => item.text.trim.lower).eraseDups.length =
      items.length

/--
The findings are those of a section, of its own scope and of each subsection.
-/
inductive ReportsSection (file : Text) (entry : Section) :
    List Finding → Prop where
  | inOrder {own headers : List Finding} {parts : List (List Finding)}
      (ownItems : ReportsScope file entry.name entry.items own)
      (repeatedHeaders :
        List.Forall₂
          (fun again finding =>
            finding =
              ⟨file, again.header.position,
                .duplicate entry.name again.header.text again.firstRow⟩)
          entry.repeatedHeaders headers)
      (subsections :
        List.Forall₂
          (fun part report =>
            ReportsScope file
              (entry.name ++ '.' :: part.name) part.items report)
          entry.subsections parts) :
      ReportsSection file entry (own ++ headers ++ parts.flatten)

/-! ## The table of the texts seen before -/

/-- The table has the row of the first of the earlier items of each text. -/
def Records (earlier : List Item) (seen : List (Text × Int)) : Prop :=
  ∀ key : Text,
    seen.lookup key = (earlier.find? (·.normalized = key)).map (·.position.row)

theorem records_nil : Records [] [] := by
  intro key
  rfl

theorem find?_snoc_of_ne
    (earlier : List Item) {item : Item} {key : Text}
    (differs : item.normalized ≠ key) :
    (earlier ++ [item]).find? (·.normalized = key) =
      earlier.find? (·.normalized = key) := by
  have notLast : [item].find? (·.normalized = key) = none := by simp [differs]
  rw [List.find?_append, notLast, Option.or_none]

/-- A repeated text keeps the row of its first item. -/
theorem Records.snoc_repeat
    {earlier : List Item} {seen : List (Text × Int)}
    (records : Records earlier seen)
    {item : Item} {row : Int} (known : seen.lookup item.normalized = some row) :
    Records (earlier ++ [item]) seen := by
  intro key
  rw [records key]
  by_cases same : item.normalized = key
  · subst same
    rw [records] at known
    obtain ⟨first, found, _⟩ := Option.map_eq_some_iff.mp known
    rw [List.find?_append, found]
    rfl
  · rw [find?_snoc_of_ne earlier same]

/-- A new text gets the row of its item. -/
theorem Records.snoc_new
    {earlier : List Item} {seen : List (Text × Int)}
    (records : Records earlier seen)
    {item : Item} (unknown : seen.lookup item.normalized = none) :
    Records (earlier ++ [item])
      ((item.normalized, item.position.row) :: seen) := by
  intro key
  by_cases same : item.normalized = key
  · subst same
    rw [records, Option.map_eq_none_iff] at unknown
    rw [List.lookup_cons_self, List.find?_append, unknown]
    simp
  · have otherKey : (key == item.normalized) = false := by
      simpa using fun equal => same equal.symm
    rw [find?_snoc_of_ne earlier same, ← records key, List.lookup_cons,
      otherKey]

theorem Records.exists_first
    {earlier : List Item} {seen : List (Text × Int)}
    (records : Records earlier seen)
    {item : Item} {row : Int} (known : seen.lookup item.normalized = some row) :
    ∃ first : Item, IsEarliest earlier item first ∧
      first.position.row = row := by
  rw [records] at known
  obtain ⟨first, found, atRow⟩ := Option.map_eq_some_iff.mp known
  obtain ⟨same, before, after, whole, others⟩ :=
    List.find?_eq_some_iff_append.mp found
  rw [decide_eq_true_eq, ← sameText_iff] at same
  refine ⟨first, ⟨before, after, whole, same, ?_⟩, atRow⟩
  intro other member sameText
  have differs := others other member
  rw [Bool.not_eq_true', decide_eq_false_iff_not] at differs
  exact differs sameText

theorem Records.not_sameText
    {earlier : List Item} {seen : List (Text × Int)}
    (records : Records earlier seen)
    {item : Item} (unknown : seen.lookup item.normalized = none) :
    ∀ other ∈ earlier, ¬ SameText other item := by
  rw [records, Option.map_eq_none_iff, List.find?_eq_none] at unknown
  intro other member sameText
  exact unknown other member (decide_eq_true sameText)

/-! ## One scope -/

/--
The repetitions among the later items are those of the whole scope that stand
there, if the table has the earlier items.
-/
theorem repetitionsAfter_forall₂
    (file scope : Text) {earlier : List Item} {seen : List (Text × Int)}
    (records : Records earlier seen) (later : List Item) :
    List.Forall₂
      (fun (numbered : Item × Nat) repetition =>
        ComparesWithEarliest file scope (earlier ++ later) numbered.1
          (Repetition.finding file scope repetition))
      ((later.zipIdx earlier.length).filter fun (item, index) =>
        HasEarlier (earlier ++ later) item index)
      (repetitionsAfter seen later) := by
  -- The induction moves items from the later to the earlier ones.
  induction later generalizing earlier seen with
  | nil => exact List.Forall₂.nil
  | cons item rest ih =>
      have moved : earlier ++ item :: rest = earlier ++ [item] ++ rest := by
        simp
      have oneMore : earlier.length + 1 = (earlier ++ [item]).length := by simp
      have above : (earlier ++ item :: rest).take earlier.length = earlier :=
        List.take_left
      rw [List.zipIdx_cons, repetitionsAfter]
      cases search : seen.lookup item.normalized with
      | some row =>
          obtain ⟨first, isEarliest, atRow⟩ := records.exists_first search
          have repeated :
              HasEarlier (earlier ++ item :: rest) item earlier.length := by
            rw [HasEarlier, above]
            exact ⟨first, isEarliest.mem_and_sameText⟩
          rw [List.filter_cons_of_pos (by simpa using repeated)]
          apply List.Forall₂.cons
          · refine ⟨first, isEarliest.append _, ?_⟩
            rw [atRow]
            rfl
          · rw [moved, oneMore]
            exact ih (records.snoc_repeat search)
      | none =>
          have new :
              ¬ HasEarlier (earlier ++ item :: rest) item earlier.length := by
            rw [HasEarlier, above]
            rintro ⟨other, member, same⟩
            exact records.not_sameText search other member same
          rw [List.filter_cons_of_neg (by simpa using new), moved, oneMore]
          exact ih (records.snoc_new search)

/--
Every later item is a repetition or brings a text that is new to the scope.
-/
theorem length_repetitionsAfter
    {earlier : List Item} {seen : List (Text × Int)}
    (records : Records earlier seen) (later : List Item) :
    (repetitionsAfter seen later).length +
        ((earlier ++ later).map Item.normalized).eraseDups.length =
      (earlier.map Item.normalized).eraseDups.length + later.length := by
  induction later generalizing earlier seen with
  | nil => simp [repetitionsAfter]
  | cons item rest ih =>
      have moved : earlier ++ item :: rest = earlier ++ [item] ++ rest := by
        simp
      have keys :
          (earlier ++ [item]).map Item.normalized =
            earlier.map Item.normalized ++ [item.normalized] := by
        simp
      rw [repetitionsAfter, moved, List.length_cons]
      cases search : seen.lookup item.normalized with
      | some row =>
          have grown := ih (records.snoc_repeat search)
          obtain ⟨first, isEarliest, _⟩ := records.exists_first search
          have known : item.normalized ∈ earlier.map Item.normalized :=
            List.mem_map.mpr ⟨first, isEarliest.mem_and_sameText⟩
          rw [keys, Layout.eraseDups_snoc, if_pos known] at grown
          simp only [List.length_cons]
          omega
      | none =>
          have grown := ih (records.snoc_new search)
          have unknown : item.normalized ∉ earlier.map Item.normalized := by
            rw [List.mem_map]
            rintro ⟨other, member, same⟩
            exact records.not_sameText search other member same
          rw [keys, Layout.eraseDups_snoc, if_neg unknown, List.length_append,
            List.length_singleton] at grown
          simp only
          omega

theorem scopeFindings_reports (file scope : Text) (items : List Item) :
    ReportsScope file scope items (scopeFindings file scope items) := by
  constructor
  · rw [scopeFindings, List.forall₂_map_right_iff]
    exact repetitionsAfter_forall₂ file scope records_nil items
  · rw [scopeFindings, List.length_map]
    have counted := length_repetitionsAfter records_nil items
    rw [List.nil_append, List.map_nil, List.eraseDups_nil, List.length_nil,
      Nat.zero_add] at counted
    exact counted

/-! ## The whole outline -/

theorem sectionFindings_reports (file : Text) (entry : Section) :
    ReportsSection file entry (sectionFindings file entry) := by
  rw [sectionFindings, List.flatMap_def]
  apply ReportsSection.inOrder
  · exact scopeFindings_reports file entry.name entry.items
  · rw [List.forall₂_map_right_iff, List.forall₂_same]
    intro again _
    rfl
  · rw [List.forall₂_map_right_iff, List.forall₂_same]
    intro part _
    exact scopeFindings_reports file
      (subsectionScope entry.name part.name) part.items

/--
The duplicates of an outline are the reports of its sections, in their order.
-/
theorem findings_report_sections (file : Text) (outline : Outline) :
    ∃ reports : List (List Finding),
      List.Forall₂ (ReportsSection file) outline.sections reports ∧
        findings file outline = reports.flatten := by
  refine ⟨outline.sections.map (sectionFindings file), ?_, rfl⟩
  rw [List.forall₂_map_right_iff, List.forall₂_same]
  intro entry _
  exact sectionFindings_reports file entry

end OutlineLint.Duplicate
