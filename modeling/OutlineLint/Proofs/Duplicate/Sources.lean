import OutlineLint.Proofs.Duplicate.Repeats

/-!
# Where duplicates come from

A duplicate of a section repeats an item of one of its scopes, or it is a header
that the section has recorded.  In a scope the item that is reported stands
below an item of the same text, and the row of that item is reported with it.
-/

namespace OutlineLint.Duplicate

/--
The repetition is reported in the scope: from its items,
or as a recorded header.
-/
inductive ReportedIn (opened : Section) : Text → Repetition → Prop where
  | own {repetition : Repetition}
      (isOwn : repetition ∈ repetitions opened.items) :
      ReportedIn opened opened.name repetition
  | header {again : RepeatedHeader}
      (isRecorded : again ∈ opened.repeatedHeaders) :
      ReportedIn opened opened.name ⟨again.header, again.firstRow⟩
  | inPart {part : Subsection} {repetition : Repetition}
      (isPart : part ∈ opened.subsections)
      (isIn : repetition ∈ repetitions part.items) :
      ReportedIn opened (subsectionScope opened.name part.name) repetition

theorem exists_reportedIn_of_mem_sectionFindings
    {file : Text} {opened : Section} {finding : Finding}
    (member : finding ∈ sectionFindings file opened) :
    ∃ (scope : Text) (repetition : Repetition),
      ReportedIn opened scope repetition ∧
        finding = repetition.finding file scope := by
  rw [sectionFindings, List.mem_append, List.mem_append] at member
  rcases member with (own | header) | inParts
  · obtain ⟨repetition, isOwn, rfl⟩ := List.mem_map.mp own
    exact ⟨_, repetition, .own isOwn, rfl⟩
  · obtain ⟨again, isRecorded, rfl⟩ := List.mem_map.mp header
    exact ⟨_, _, .header isRecorded, rfl⟩
  · obtain ⟨part, isPart, inPart⟩ := List.mem_flatMap.mp inParts
    obtain ⟨repetition, isIn, rfl⟩ := List.mem_map.mp inPart
    exact ⟨_, repetition, .inPart isPart isIn, rfl⟩

/-- The items that are reported are items of the scope, in their order. -/
theorem map_item_repetitionsAfter_sublist
    (seen : List (Text × Int)) (items : List Item) :
    ((repetitionsAfter seen items).map Repetition.item).Sublist items := by
  induction items generalizing seen with
  | nil => exact List.Sublist.refl []
  | cons item rest ih =>
      rw [repetitionsAfter]
      split
      · exact (ih seen).cons_cons item
      · exact (ih _).cons item

theorem item_mem_of_mem_repetitions
    {items : List Item} {repetition : Repetition}
    (member : repetition ∈ repetitions items) :
    repetition.item ∈ items :=
  (map_item_repetitionsAfter_sublist [] items).subset
    (List.mem_map_of_mem member)

/--
A later item that is reported repeats an item above it, whose row is reported.
-/
theorem exists_first_of_mem_repetitionsAfter
    {earlier : List Item} {seen : List (Text × Int)}
    (records : Records earlier seen)
    {later : List Item} {repetition : Repetition}
    (member : repetition ∈ repetitionsAfter seen later) :
    ∃ first : Item,
      [first, repetition.item].Sublist (earlier ++ later) ∧
        SameText first repetition.item ∧
        first.position.row = repetition.firstRow := by
  -- The induction moves items from the later to the earlier ones.
  induction later generalizing earlier seen with
  | nil => cases member
  | cons item rest ih =>
      have moved : earlier ++ item :: rest = earlier ++ [item] ++ rest := by
        simp
      rw [repetitionsAfter] at member
      cases search : seen.lookup item.normalized with
      | some row =>
          rw [search] at member
          rcases List.mem_cons.mp member with rfl | inRest
          · obtain ⟨first, isEarliest, atRow⟩ := records.exists_first search
            obtain ⟨isEarlier, same⟩ := isEarliest.mem_and_sameText
            have above : [first].Sublist earlier :=
              List.singleton_sublist.mpr isEarlier
            have here : [item].Sublist (item :: rest) :=
              List.singleton_sublist.mpr List.mem_cons_self
            exact ⟨first, above.append here, same, atRow⟩
          · rw [moved]
            exact ih (records.snoc_repeat search) inRest
      | none =>
          rw [search] at member
          rw [moved]
          exact ih (records.snoc_new search) member

theorem exists_first_of_mem_repetitions
    {items : List Item} {repetition : Repetition}
    (member : repetition ∈ repetitions items) :
    ∃ first : Item,
      [first, repetition.item].Sublist items ∧
        SameText first repetition.item ∧
        first.position.row = repetition.firstRow :=
  exists_first_of_mem_repetitionsAfter records_nil member

end OutlineLint.Duplicate
