import Mathlib.Data.List.Forall2
import OutlineLint.Proofs.Text.LowerFixed
import OutlineLint.Proofs.Text.Trimmed
import OutlineLint.Resolution

/-!
# Unresolved references

`Unresolved` says by rules which finding a reference has in an outline, without
a look-up or an order of tests: by the segments around the first dots, the first
section with a fitting name, and what that section knows.  A reference that no
rule applies to has no finding.

The findings of an outline are exactly those of its unresolved references, in
their order.  A name is lower-cased again for every look-up and a text is
trimmed again before its template is recognized; both change nothing.
-/

namespace OutlineLint.Resolution

/-! ## The rules -/

/-- The trimmed reference belongs to a template and is never resolved. -/
def Skipped (trimmed : Text) : Prop :=
  (∃ beginning ∈ ["input.", "random", "canonical"],
      beginning.toList <+: trimmed) ∨
    (∃ sign ∈ [['?', '.'], ['('], [')'], ['|'], ['{'], ['}']],
        sign <:+: trimmed) ∨
      (trimmed ≠ [] ∧
        ∀ character ∈ trimmed,
          ('A' ≤ character ∧ character ≤ 'Z') ∨
            ('0' ≤ character ∧ character ≤ '9') ∨
            character = '_')

/-- The first two segments of a text that has a dot. -/
def FirstSegments (text first second : Text) : Prop :=
  '.' ∉ first ∧ '.' ∉ second ∧
    (text = first ++ '.' :: second ∨
      ∃ more : Text, text = first ++ '.' :: (second ++ '.' :: more))

/--
The first section of the outline whose name has the given lower-case form.
-/
def IsFirstNamed
    (outline : Outline) (lowered : Text) (entry : Section) : Prop :=
  ∃ earlier later : List Section,
    outline.sections = earlier ++ entry :: later ∧ entry.name.lower = lowered ∧
      ∀ other ∈ earlier, other.name.lower ≠ lowered

/-- The section has a subsection of the name, or an item that begins with it. -/
def Knows (entry : Section) (lowered : Text) : Prop :=
  (∃ part ∈ entry.subsections, part.name.lower = lowered) ∨
    (∃ item ∈ entry.items, lowered <+: item.text.trim.lower) ∨
      ∃ part ∈ entry.subsections, ∃ item ∈ part.items,
        lowered <+: item.text.trim.lower

/-- The reference has the finding in the outline. -/
inductive Unresolved (outline : Outline) (reference : Reference) :
    Finding → Prop where
  /-- No section has the name before the first dot. -/
  | unknownPrefix {first second : Text}
      (kept : ¬ Skipped reference.text.trim)
      (segments : FirstSegments reference.text.trim first second)
      (missing :
        ∀ entry ∈ outline.sections, entry.name.lower ≠ first.trim.lower) :
      Unresolved outline reference
        ⟨reference.file, reference.position,
          .unresolved .unknownPrefix reference.text.trim
            (some first.trim.lower) none⟩
  /-- The first section of the name has nothing of the name after the dot. -/
  | suffixNotFound {first second : Text} {entry : Section}
      (kept : ¬ Skipped reference.text.trim)
      (segments : FirstSegments reference.text.trim first second)
      (isFirst : IsFirstNamed outline first.trim.lower entry)
      (lacks : ¬ Knows entry second.trim.lower) :
      Unresolved outline reference
        ⟨reference.file, reference.position,
          .unresolved .suffixNotFound reference.text.trim
            (some first.trim.lower) (some second.trim.lower)⟩
  /-- No section has the name that the reference without a dot is. -/
  | unknownSection
      (kept : ¬ Skipped reference.text.trim)
      (dotless : '.' ∉ reference.text.trim)
      (missing :
        ∀ entry ∈ outline.sections,
          entry.name.lower ≠ reference.text.trim.lower) :
      Unresolved outline reference
        ⟨reference.file, reference.position,
          .unresolved .unknownSection reference.text.trim none none⟩

theorem Unresolved.position_eq
    {outline : Outline} {reference : Reference} {finding : Finding}
    (unresolved : Unresolved outline reference finding) :
    finding.position = reference.position := by
  cases unresolved <;> rfl

/-! ## The parts of the resolver -/

theorem isConstantCharacter_iff (character : Char) :
    isConstantCharacter character = true ↔
      ('A' ≤ character ∧ character ≤ 'Z') ∨
        ('0' ≤ character ∧ character ≤ '9') ∨
        character = '_' := by
  have upper : character.isUpper = true ↔ 'A' ≤ character ∧ character ≤ 'Z' :=
    decide_eq_true_iff
  have digit : character.isDigit = true ↔ '0' ≤ character ∧ character ≤ '9' :=
    (Bool.and_eq_true_iff).trans
      (and_congr decide_eq_true_iff decide_eq_true_iff)
  simp only [isConstantCharacter, Bool.or_eq_true, upper, digit,
    decide_eq_true_eq, or_assoc]

theorem isTemplate_iff (trimmed : Text) :
    isTemplate trimmed = true ↔ Skipped trimmed := by
  simp only [isTemplate, Skipped, templateBeginnings, templateSigns,
    Bool.or_eq_true, Bool.and_eq_true, List.any_eq_true, List.all_eq_true,
    Text.holds_iff, List.isPrefixOf_iff_prefix, isConstantCharacter_iff,
    Bool.not_eq_true', or_assoc, List.isEmpty_eq_false_iff,
    List.exists_mem_cons_iff, List.not_mem_nil, false_and, exists_false,
    or_false]
  rfl

theorem isExempt_trim_iff (reference : Text) :
    isExempt reference.trim = true ↔ Skipped reference.trim := by
  rw [isExempt, Text.trim_trim, isTemplate_iff]

theorem splitOn_of_firstSegments
    {text first second : Text} (segments : FirstSegments text first second) :
    ∃ more : List Text, text.splitOn '.' = first :: second :: more := by
  obtain ⟨firstDotless, secondDotless, rfl | ⟨more, rfl⟩⟩ := segments
  · rw [List.splitOn_append_cons_self_of_not_mem firstDotless,
      List.splitOn_eq_singleton secondDotless]
    exact ⟨[], rfl⟩
  · rw [List.splitOn_append_cons_self_of_not_mem firstDotless,
      List.splitOn_append_cons_self_of_not_mem secondDotless]
    exact ⟨more.splitOn '.', rfl⟩

theorem exists_firstSegments {text : Text} (dotted : '.' ∈ text) :
    ∃ first second : Text, FirstSegments text first second := by
  obtain ⟨first, rest, rfl, firstDotless⟩ := List.eq_append_cons_of_mem dotted
  by_cases restDotted : '.' ∈ rest
  · obtain ⟨second, more, rfl, secondDotless⟩ :=
      List.eq_append_cons_of_mem restDotted
    exact ⟨first, second, firstDotless, secondDotless, Or.inr ⟨more, rfl⟩⟩
  · exact ⟨first, rest, firstDotless, restDotted, Or.inl rfl⟩

theorem FirstSegments.dotted
    {text first second : Text} (segments : FirstSegments text first second) :
    '.' ∈ text := by
  obtain ⟨_, _, rfl | ⟨more, rfl⟩⟩ := segments <;> simp

theorem sectionNamed?_eq_none_iff (outline : Outline) (name : Text) :
    outline.sectionNamed? name = none ↔
      ∀ entry ∈ outline.sections, entry.name.lower ≠ name.lower := by
  simp [Outline.sectionNamed?]

/-- A lower-cased name is looked up as it is. -/
theorem sectionNamed?_lower_eq_some_iff
    (outline : Outline) (name : Text) (entry : Section) :
    outline.sectionNamed? name.lower = some entry ↔
      IsFirstNamed outline name.lower entry := by
  simp only [Outline.sectionNamed?, Text.lower_lower,
    List.find?_eq_some_iff_append, decide_eq_true_eq, Bool.not_eq_true',
    decide_eq_false_iff_not, IsFirstNamed]
  constructor
  · rintro ⟨named, earlier, later, whole, others⟩
    exact ⟨earlier, later, whole, named, others⟩
  · rintro ⟨earlier, later, whole, named, others⟩
    exact ⟨named, earlier, later, whole, others⟩

theorem sectionKnows_iff (entry : Section) (lowered : Text) :
    sectionKnows entry lowered = true ↔ Knows entry lowered := by
  simp [sectionKnows, Knows, Item.normalized, or_assoc]

/-! ## The finding of one reference -/

theorem missing?_of_firstSegments
    (outline : Outline) {trimmed first second : Text}
    (segments : FirstSegments trimmed first second) :
    missing? outline trimmed =
      match outline.sectionNamed? first.trim.lower with
      | none => some (.unknownPrefix, some first.trim.lower, none)
      | some entry =>
          if sectionKnows entry second.trim.lower then
            none
          else
            some (.suffixNotFound, some first.trim.lower,
              some second.trim.lower) := by
  obtain ⟨more, split⟩ := splitOn_of_firstSegments segments
  rw [missing?, split]
  rfl

theorem missing?_of_dotless
    (outline : Outline) {trimmed : Text} (dotless : '.' ∉ trimmed) :
    missing? outline trimmed =
      if (outline.sectionNamed? trimmed).isNone then
        some (.unknownSection, none, none)
      else
        none := by
  rw [missing?, List.splitOn_eq_singleton dotless]

theorem finding?_of_kept
    (outline : Outline) {reference : Reference}
    (kept : ¬ Skipped reference.text.trim) :
    finding? outline reference =
      (missing? outline reference.text.trim).map fun (fault, first, second) =>
        ⟨reference.file, reference.position,
          .unresolved fault reference.text.trim first second⟩ := by
  have notExempt : ¬ isExempt reference.text.trim = true := by
    rwa [isExempt_trim_iff]
  simp only [finding?, if_neg notExempt]

/-- A reference has a finding exactly if a rule gives it. -/
theorem finding?_eq_some_iff
    (outline : Outline) (reference : Reference) (finding : Finding) :
    finding? outline reference = some finding ↔
      Unresolved outline reference finding := by
  constructor
  · intro found
    by_cases kept : Skipped reference.text.trim
    · have exempt := (isExempt_trim_iff reference.text).mpr kept
      simp [finding?, exempt] at found
    rw [finding?_of_kept outline kept] at found
    by_cases dotted : '.' ∈ reference.text.trim
    · obtain ⟨first, second, segments⟩ := exists_firstSegments dotted
      rw [missing?_of_firstSegments outline segments] at found
      cases search : outline.sectionNamed? first.trim.lower with
      | none =>
          rw [search] at found
          cases found
          rw [sectionNamed?_eq_none_iff, Text.lower_lower] at search
          exact .unknownPrefix kept segments search
      | some entry =>
          rw [search] at found
          by_cases knows : sectionKnows entry second.trim.lower = true
          · simp [knows] at found
          · simp only [if_neg knows, Option.map_some,
              Option.some.injEq] at found
            subst found
            rw [sectionKnows_iff] at knows
            exact .suffixNotFound kept segments
              ((sectionNamed?_lower_eq_some_iff outline _ entry).mp search)
              knows
    · rw [missing?_of_dotless outline dotted] at found
      cases search : outline.sectionNamed? reference.text.trim with
      | none =>
          rw [search] at found
          cases found
          rw [sectionNamed?_eq_none_iff] at search
          exact .unknownSection kept dotted search
      | some entry => simp [search] at found
  · intro unresolved
    cases unresolved with
    | unknownPrefix kept segments missing =>
        rw [← Text.lower_lower, ← sectionNamed?_eq_none_iff] at missing
        rw [finding?_of_kept outline kept,
          missing?_of_firstSegments outline segments, missing]
        rfl
    | suffixNotFound kept segments isFirst lacks =>
        rw [← sectionNamed?_lower_eq_some_iff] at isFirst
        rw [← sectionKnows_iff] at lacks
        rw [finding?_of_kept outline kept,
          missing?_of_firstSegments outline segments, isFirst]
        simp only [if_neg lacks, Option.map_some]
    | unknownSection kept dotless missing =>
        rw [← sectionNamed?_eq_none_iff] at missing
        rw [finding?_of_kept outline kept, missing?_of_dotless outline dotless,
          missing]
        rfl

/-! ## The findings of an outline -/

instance (outline : Outline) (reference : Reference) :
    Decidable (∃ finding : Finding, Unresolved outline reference finding) :=
  decidable_of_iff ((finding? outline reference).isSome = true) (by
    simp only [Option.isSome_iff_exists, finding?_eq_some_iff])

/--
The findings belong one by one to the unresolved references in their order, and
each is the only one that the rules give to its reference.
-/
theorem findings_forall₂ (outline : Outline) :
    List.Forall₂
      (fun reference finding =>
        ∀ other : Finding, Unresolved outline reference other ↔ other = finding)
      (outline.references.filter
        fun reference =>
          ∃ finding : Finding, Unresolved outline reference finding)
      (findings outline) := by
  rw [findings]
  induction outline.references with
  | nil => exact List.Forall₂.nil
  | cons reference rest ih =>
      cases search : finding? outline reference with
      | none =>
          have resolved :
              ¬ ∃ finding : Finding, Unresolved outline reference finding := by
            rintro ⟨finding, unresolved⟩
            rw [← finding?_eq_some_iff, search] at unresolved
            cases unresolved
          rw [List.filterMap_cons_none search,
            List.filter_cons_of_neg (by simpa using resolved)]
          exact ih
      | some finding =>
          have unresolved :=
            (finding?_eq_some_iff outline reference finding).mp search
          rw [List.filterMap_cons_some search,
            List.filter_cons_of_pos (by simpa using ⟨finding, unresolved⟩)]
          refine List.Forall₂.cons ?_ ih
          intro other
          rw [← finding?_eq_some_iff, search, Option.some.injEq]
          exact eq_comm

end OutlineLint.Resolution
