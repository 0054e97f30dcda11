import OutlineLint.Outline.Parse
import OutlineLint.Proofs.Resolution.CaseVariants
import OutlineLint.Proofs.Text.LowerBeginning
import OutlineLint.Proofs.Text.Trailing

/-!
# References that begin an item letter for letter

A reference may name an item by a beginning of it, and case does not count.
Both are put in lower case before they are compared, each by itself.  So a
beginning that is copied letter for letter is recognized, unless it is cut off
inside a word right behind a capital sigma.  There it ends in the final form of
the letter, and the item goes on with the other one.
-/

namespace OutlineLint.Resolution

/-- The item stands in the section, on its own or in one of the subsections. -/
def IsItemOf (entry : Section) (item : Item) : Prop :=
  item ∈ entry.items ∨ ∃ part ∈ entry.subsections, item ∈ part.items

theorem knows_of_isItemOf
    {entry : Section} {item : Item} (isItem : IsItemOf entry item)
    {lowered : Text} (begins : lowered <+: item.text.trim.lower) :
    Knows entry lowered := by
  rcases isItem with own | ⟨part, isPart, inPart⟩
  · exact Or.inr (Or.inl ⟨item, own, begins⟩)
  · exact Or.inr (Or.inr ⟨part, isPart, item, inPart, begins⟩)

/-- Two trimmed parts with a dot between them have no outer blanks. -/
theorem trim_append_dot_cons
    {first second : Text} (firstTrimmed : first.trim = first)
    (secondTrimmed : second.trim = second) :
    Text.trim (first ++ '.' :: second) = first ++ '.' :: second := by
  have visible : Text.isBlank '.' = false := rfl
  have leftTrimmed : Text.trimLeft first = first := by
    rw [← firstTrimmed, Text.trimLeft_trim]
  have rightTrimmed : Text.trimRight second = second := by
    rw [← secondTrimmed, Text.trim, Text.trimRight_trimRight]
  have left :
      Text.trimLeft (first ++ '.' :: second) = first ++ '.' :: second := by
    cases first with
    | nil => exact List.dropWhile_cons_of_neg (by simp [visible])
    | cons character rest =>
        have isHead :
            character ∈ (Text.trimLeft (character :: rest)).head? := by
          rw [leftTrimmed]
          rfl
        exact List.dropWhile_cons_of_neg
          (by simp [Text.isBlank_of_mem_head?_trimLeft isHead])
  rw [Text.trim, left, Text.trimRight_append_cons visible, rightTrimmed]

/--
The reference is the name of the section and a name that the section knows.
-/
theorem finding?_eq_none_of_knows
    {outline : Outline} {name member : Text} {entry : Section}
    (named : outline.sectionNamed? name = some entry)
    (nameTrimmed : name.trim = name) (nameDotless : '.' ∉ name)
    (memberTrimmed : member.trim = member) (memberDotless : '.' ∉ member)
    (knows : Knows entry member.lower)
    {reference : Reference} (written : reference.text = name ++ '.' :: member) :
    finding? outline reference = none := by
  have trimmed : reference.text.trim = name ++ '.' :: member := by
    rw [written, trim_append_dot_cons nameTrimmed memberTrimmed]
  by_cases skipped : Skipped reference.text.trim
  · have exempt := (isExempt_trim_iff reference.text).mpr skipped
    simp [finding?, exempt]
  have segments : FirstSegments reference.text.trim name member :=
    ⟨nameDotless, memberDotless, Or.inl trimmed⟩
  have isFirst : IsFirstNamed outline name.lower entry := by
    rw [← sectionNamed?_lower_eq_some_iff, ← named]
    simp only [Outline.sectionNamed?, Text.lower_lower]
  rw [finding?_eq_none_iff_of_firstSegments outline skipped segments,
    nameTrimmed, memberTrimmed]
  exact ⟨entry, isFirst, knows⟩

/-! ## A beginning of an item -/

/--
A section with one item, and a reference that is cut off
inside the item's first word.
-/
def veal : Text :=
  "meat\n    ΜΟΣΧΟΣ, ΨΗΤΟΣ\n    [meat.ΜΟΣ]".toList

/-- The reference on the last of the lines. -/
def vealReference : Reference :=
  ⟨"meat.ΜΟΣ".toList, ⟨3, 5⟩, []⟩

/-- The item on the second line. -/
def vealItem : Item :=
  ⟨"ΜΟΣΧΟΣ, ΨΗΤΟΣ".toList, ⟨2, 5⟩⟩

/-- The section of the text. -/
def vealSection : Section :=
  ⟨"meat".toList, [], [vealItem, ⟨"[meat.ΜΟΣ]".toList, ⟨3, 5⟩⟩], [],
    [⟨1, "meat".toList⟩]⟩

theorem parse_veal :
    Outline.parse [] veal = ⟨[vealSection], [vealReference]⟩ := by
  decide +kernel

theorem sectionNamed?_veal :
    (Outline.parse [] veal).sectionNamed? "meat".toList = some vealSection := by
  rw [parse_veal]
  decide +kernel

/--
A reference of a section and a literal beginning of one of its items has no
finding, unless the beginning is cut off right behind a sigma.  A beginning that
is cut off so is none in lower case, and the item does not answer to it.
-/
theorem finding?_eq_none_of_literal_beginning
    {outline : Outline} {name start rest : Text} {entry : Section} {item : Item}
    (named : outline.sectionNamed? name = some entry)
    (nameTrimmed : name.trim = name) (nameDotless : '.' ∉ name)
    (isItem : IsItemOf entry item) (whole : item.text.trim = start ++ rest)
    (startTrimmed : start.trim = start) (startDotless : '.' ∉ start)
    {reference : Reference} (written : reference.text = name ++ '.' :: start) :
    (¬ Text.CutBehindSigma start rest → finding? outline reference = none) ∧
      (Text.CutBehindSigma start rest → ¬ start.lower <+: item.normalized) := by
  have begins :
      start.lower <+: item.normalized ↔ ¬ Text.CutBehindSigma start rest := by
    rw [Item.normalized, whole]
    exact Text.lower_isPrefix_lower_append_iff start rest
  constructor
  · intro uncut
    have knows : Knows entry start.lower :=
      knows_of_isItemOf isItem (begins.mpr uncut)
    exact finding?_eq_none_of_knows named nameTrimmed nameDotless startTrimmed
      startDotless
      knows written
  · intro cut stillBegins
    exact begins.mp stillBegins cut

/-- The whole first word ends in a sigma, and so it does in the item. -/
theorem veal_first_word :
    (Outline.parse [] veal).sectionNamed? "meat".toList = some vealSection ∧
      IsItemOf vealSection vealItem ∧
        vealItem.text.trim = "ΜΟΣΧΟΣ".toList ++ ", ΨΗΤΟΣ".toList ∧
          ¬ Text.CutBehindSigma "ΜΟΣΧΟΣ".toList ", ΨΗΤΟΣ".toList ∧
            finding? (Outline.parse [] veal)
              ⟨"meat.ΜΟΣΧΟΣ".toList, ⟨3, 5⟩, []⟩ = none := by
  have isItem : IsItemOf vealSection vealItem := Or.inl List.mem_cons_self
  have whole : vealItem.text.trim = "ΜΟΣΧΟΣ".toList ++ ", ΨΗΤΟΣ".toList := by
    decide
  have uncut : ¬ Text.CutBehindSigma "ΜΟΣΧΟΣ".toList ", ΨΗΤΟΣ".toList := by
    rw [← Text.lower_isPrefix_lower_append_iff]
    decide +kernel
  exact ⟨sectionNamed?_veal, isItem, whole, uncut,
    (finding?_eq_none_of_literal_beginning sectionNamed?_veal (by decide)
      (by decide) isItem whole
        (by decide) (by decide) (by decide)).1 uncut⟩

/-- Cut off inside the word, the beginning is not recognized. -/
theorem literal_beginning_flagged :
    ¬ ∀ (outline : Outline) (name start rest : Text) (entry : Section)
      (item : Item)
        (reference : Reference),
      outline.sectionNamed? name = some entry → name ≠ [] → name.trim = name →
        '.' ∉ name →
        IsItemOf entry item → item.text.trim = start ++ rest →
          start ≠ [] → start.trim = start → '.' ∉ start →
            reference.text = name ++ '.' :: start →
            finding? outline reference = none := by
  intro always
  have unflagged :=
    always (Outline.parse [] veal) "meat".toList "ΜΟΣ".toList
      "ΧΟΣ, ΨΗΤΟΣ".toList vealSection
      vealItem vealReference sectionNamed?_veal (by decide) (by decide)
        (by decide)
      (Or.inl List.mem_cons_self) (by decide) (by decide) (by decide)
        (by decide) (by decide)
  rw [parse_veal] at unflagged
  revert unflagged
  decide +kernel

end OutlineLint.Resolution
