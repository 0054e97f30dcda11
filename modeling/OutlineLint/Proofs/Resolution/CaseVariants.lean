import OutlineLint.Proofs.Reference.Columns
import OutlineLint.Proofs.Resolution.Unresolved

/-!
# Sections whose names differ in case only

Sections are told apart by the exact letters of their names, and a reference is
looked up without regard to case.  So a reference may fit several sections of
one text, and then the first of them decides alone.  A dotted reference is left
without a finding exactly if the first section that its first segment fits knows
its second segment.  What a later section of such a name knows does not count.
-/

namespace OutlineLint.Resolution

/-- No finding of the outline stands at the place of the reference. -/
def Unflagged (outline : Outline) (reference : Reference) : Prop :=
  ∀ finding ∈ findings outline, finding.position ≠ reference.position

instance (outline : Outline) (reference : Reference) :
    Decidable (Unflagged outline reference) :=
  inferInstanceAs (Decidable (∀ finding ∈ _, _))

/-- Of the references of a text, a finding belongs to the one at its place. -/
theorem unflagged_iff_finding?_eq_none
    {file text : Text} {reference : Reference}
    (isReference : reference ∈ (Outline.parse file text).references) :
    Unflagged (Outline.parse file text) reference ↔
      finding? (Outline.parse file text) reference = none := by
  constructor
  · intro unflagged
    rw [Option.eq_none_iff_forall_not_mem]
    intro finding found
    apply unflagged finding
    · exact List.mem_filterMap.mpr ⟨reference, isReference, found⟩
    · exact ((finding?_eq_some_iff _ _ _).mp found).position_eq
  · intro resolved finding member samePlace
    obtain ⟨other, isOther, found⟩ := List.mem_filterMap.mp member
    have otherPlace := ((finding?_eq_some_iff _ _ _).mp found).position_eq
    have same : other = reference :=
      Outline.eq_of_position_eq isOther isReference
        (otherPlace.symm.trans samePlace)
    rw [same, resolved] at found
    cases found

theorem finding?_eq_none_iff_of_firstSegments
    (outline : Outline) {reference : Reference}
    (kept : ¬ Skipped reference.text.trim)
    {first second : Text}
    (segments : FirstSegments reference.text.trim first second) :
    finding? outline reference = none ↔
      ∃ entry : Section,
        IsFirstNamed outline first.trim.lower entry ∧
          Knows entry second.trim.lower := by
  rw [finding?_of_kept outline kept, Option.map_eq_none_iff,
    missing?_of_firstSegments outline segments]
  cases search : outline.sectionNamed? first.trim.lower with
  | none =>
      constructor
      · intro absurdity
        cases absurdity
      · rintro ⟨entry, isFirst, _⟩
        rw [← sectionNamed?_lower_eq_some_iff, search] at isFirst
        cases isFirst
  | some entry =>
      have isFirst :=
        (sectionNamed?_lower_eq_some_iff outline _ entry).mp search
      constructor
      · intro resolved
        refine ⟨entry, isFirst, (sectionKnows_iff entry _).mp ?_⟩
        by_contra lacks
        simp [lacks] at resolved
      · rintro ⟨other, isOther, knows⟩
        rw [← sectionNamed?_lower_eq_some_iff, search,
          Option.some.injEq] at isOther
        subst isOther
        exact if_pos ((sectionKnows_iff entry _).mpr knows)

/-! ## Two case variants of a name -/

/-- Only the second section has the subsection. -/
def variants : Text :=
  "Closet\ncloset\n  indoors\n  [closet.indoors]".toList

/-- The reference on the last of the lines. -/
def variantsReference : Reference :=
  ⟨"closet.indoors".toList, ⟨4, 3⟩, []⟩

theorem variantsReference_mem :
    variantsReference ∈ (Outline.parse [] variants).references := by
  decide +kernel

theorem variantsReference_kept : ¬ Skipped variantsReference.text.trim := by
  rw [← isTemplate_iff]
  decide

theorem variantsReference_segments :
    FirstSegments variantsReference.text.trim "closet".toList
      "indoors".toList :=
  ⟨by decide, by decide, Or.inl (by decide)⟩

theorem variantsReference_flagged :
    ¬ Unflagged (Outline.parse [] variants) variantsReference := by
  decide +kernel

/-! ## Dotted references -/

/--
A dotted reference that is not exempt has no finding exactly if the first
section that its first segment fits knows its second segment.
-/
theorem unflagged_iff_firstNamed_knows
    {file text : Text} {reference : Reference}
    (isReference : reference ∈ (Outline.parse file text).references)
    (kept : ¬ Skipped reference.text.trim)
    {first second : Text}
    (segments : FirstSegments reference.text.trim first second) :
    Unflagged (Outline.parse file text) reference ↔
      ∃ entry : Section,
        IsFirstNamed (Outline.parse file text) first.trim.lower entry ∧
          Knows entry second.trim.lower := by
  rw [unflagged_iff_finding?_eq_none isReference]
  exact finding?_eq_none_iff_of_firstSegments _ kept segments

/--
The reference is flagged, so the first of the two variants
lacks its second segment.
-/
theorem variants_firstNamed_lacks :
    variantsReference ∈ (Outline.parse [] variants).references ∧
      ¬ Skipped variantsReference.text.trim ∧
        FirstSegments variantsReference.text.trim "closet".toList
            "indoors".toList ∧
          ¬ ∃ entry : Section,
            IsFirstNamed (Outline.parse [] variants)
                (Text.trim "closet".toList).lower entry ∧
              Knows entry (Text.trim "indoors".toList).lower := by
  refine ⟨variantsReference_mem, variantsReference_kept,
    variantsReference_segments, ?_⟩
  rw [← unflagged_iff_firstNamed_knows variantsReference_mem
    variantsReference_kept
    variantsReference_segments]
  exact variantsReference_flagged

/-- One section of the name that knows the second segment is not enough. -/
theorem flagged_beside_knowing_section :
    ¬ ∀ (file text : Text) (reference : Reference) (first second : Text),
      reference ∈ (Outline.parse file text).references →
        ¬ Skipped reference.text.trim →
          FirstSegments reference.text.trim first second →
            (Unflagged (Outline.parse file text) reference ↔
              ∃ entry ∈ (Outline.parse file text).sections,
                entry.name.lower = first.trim.lower ∧
                  Knows entry second.trim.lower) := by
  intro oneIsEnough
  apply variantsReference_flagged
  rw [oneIsEnough [] variants variantsReference _ _ variantsReference_mem
    variantsReference_kept variantsReference_segments]
  simp only [← sectionKnows_iff]
  decide +kernel

end OutlineLint.Resolution
