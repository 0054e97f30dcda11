import OutlineLint.Text.Lowercase

/-!
# The beginning of a text in lower case

The lower-case form of a beginning is nearly always the beginning of the
lower-case form.  A text that goes on can only change a capital sigma:
at the end of a word it has its final form, and inside the word it has
not.  So the two forms differ exactly if the text is cut inside a word,
right behind a capital sigma.
-/

namespace OutlineLint.Text

/-! ## Neighbours that go on -/

theorem beginsCased_append (near far : Text) :
    beginsCased (near ++ far) =
      if near.all isCaseIgnorable then beginsCased far
        else beginsCased near := by
  induction near with
  | nil => rfl
  | cons character rest ih =>
      by_cases ignorable : isCaseIgnorable character = true
      · simpa [beginsCased, ignorable] using ih
      · simp [beginsCased, ignorable]

theorem beginsCased_of_ignorable
    {neighbours : Text} (ignorable : neighbours.all isCaseIgnorable = true) :
    beginsCased neighbours = false := by
  have nothing := beginsCased_append neighbours []
  rw [List.append_nil, if_pos ignorable] at nothing
  exact nothing

/--
The character is a capital sigma at the end of a word that goes on
with the text behind it.
-/
def GoesOnBehindSigma
    (before : Text) (character : Char) (after more : Text) : Prop :=
  character = 'Σ' ∧ beginsCased before = true ∧
    after.all isCaseIgnorable = true ∧
    beginsCased more = true

/--
More text changes the form of a character only if it goes on
with the word of a sigma.
-/
theorem lowerBetween_append_iff
    (before : Text) (character : Char) (after more : Text) :
    lowerBetween before character (after ++ more) =
        lowerBetween before character after ↔
      ¬ GoesOnBehindSigma before character after more := by
  by_cases sigma : character = 'Σ'
  · rw [lowerBetween, lowerBetween, if_pos sigma, if_pos sigma,
      beginsCased_append]
    by_cases ignorable : after.all isCaseIgnorable = true
    · rw [if_pos ignorable, beginsCased_of_ignorable ignorable]
      cases cased : beginsCased before <;> cases goesOn : beginsCased more <;>
        simp [GoesOnBehindSigma, sigma, ignorable, cased, goesOn]
    · rw [if_neg ignorable]
      simp [GoesOnBehindSigma, ignorable]
  · rw [lowerBetween, lowerBetween, if_neg sigma, if_neg sigma]
    simp [GoesOnBehindSigma, sigma]

/--
How many characters the lower-case form has does not depend on the neighbours.
-/
theorem length_lowerBetween_eq
    (before otherBefore : Text) (character : Char) (after otherAfter : Text) :
    (lowerBetween before character after).length =
      (lowerBetween otherBefore character otherAfter).length := by
  unfold lowerBetween
  repeat' split
  all_goals rfl

/-! ## A text that is followed by another -/

/--
Lower-cases a text between the characters `before` it, nearest
first, and those `after` it.
-/
def lowerWithin (before after : Text) : Text → Text
  | [] => []
  | character :: rest =>
      lowerBetween before character (rest ++ after)
        ++ lowerWithin (character :: before) after rest

theorem lowerAfter_append (before front back : Text) :
    lowerAfter before (front ++ back) =
      lowerWithin before back front ++
        lowerAfter (front.reverse ++ before) back := by
  induction front generalizing before with
  | nil => rfl
  | cons character rest ih =>
      rw [List.cons_append, lowerAfter, ih, lowerWithin, List.append_assoc,
        List.reverse_cons, List.append_assoc, List.singleton_append]

theorem length_lowerWithin (before after text : Text) :
    (lowerWithin before after text).length =
      (lowerAfter before text).length := by
  induction text generalizing before with
  | nil => rfl
  | cons character rest ih =>
      rw [lowerWithin, lowerAfter, List.length_append, List.length_append, ih,
        length_lowerBetween_eq]

/--
The text `back` goes on with a word that the text `front` ends
in, behind a capital sigma.
-/
def CutBehindSigmaAfter (before front back : Text) : Prop :=
  ∃ word marks : Text,
    front = word ++ 'Σ' :: marks ∧ beginsCased (word.reverse ++ before) = true ∧
      marks.all isCaseIgnorable = true ∧ beginsCased back = true

theorem cutBehindSigmaAfter_cons_iff
    (before : Text) (character : Char) (rest back : Text) :
    CutBehindSigmaAfter before (character :: rest) back ↔
      GoesOnBehindSigma before character rest back ∨
        CutBehindSigmaAfter (character :: before) rest back := by
  constructor
  · rintro ⟨word, marks, whole, cased, ignorable, goesOn⟩
    cases word with
    | nil =>
        obtain ⟨sigma, rfl⟩ := List.cons.inj whole
        exact Or.inl ⟨sigma, cased, ignorable, goesOn⟩
    | cons first word =>
        obtain ⟨rfl, rfl⟩ := List.cons.inj whole
        rw [List.reverse_cons, List.append_assoc] at cased
        exact Or.inr ⟨word, marks, rfl, cased, ignorable, goesOn⟩
  · rintro (⟨rfl, cased, ignorable, goesOn⟩ | ⟨word, marks, rfl, cased,
        ignorable, goesOn⟩)
    · exact ⟨[], rest, rfl, cased, ignorable, goesOn⟩
    · refine ⟨character :: word, marks, rfl, ?_, ignorable, goesOn⟩
      rw [List.reverse_cons, List.append_assoc]
      exact cased

theorem lowerWithin_eq_lowerAfter_iff (before front back : Text) :
    lowerWithin before back front = lowerAfter before front ↔
      ¬ CutBehindSigmaAfter before front back := by
  induction front generalizing before with
  | nil =>
      refine iff_of_true rfl ?_
      rintro ⟨word, marks, whole, _⟩
      cases word <;> cases whole
  | cons character rest ih =>
      have sameLength :=
        length_lowerBetween_eq before before character (rest ++ back) rest
      rw [lowerWithin, lowerAfter, cutBehindSigmaAfter_cons_iff, not_or,
        ← lowerBetween_append_iff, ← ih]
      constructor
      · exact fun same => List.append_inj same sameLength
      · rintro ⟨sameHere, sameLater⟩
        rw [sameHere, sameLater]

/-! ## Beginnings -/

/--
The cut goes through a word, right behind a capital sigma: a cased
letter stands before the sigma and another one behind the cut,
case-ignorable characters passed over.
-/
def CutBehindSigma (front back : Text) : Prop :=
  ∃ word marks : Text,
    front = word ++ 'Σ' :: marks ∧ beginsCased word.reverse = true ∧
      (∀ mark ∈ marks, isCaseIgnorable mark = true) ∧ beginsCased back = true

theorem cutBehindSigmaAfter_nil_iff (front back : Text) :
    CutBehindSigmaAfter [] front back ↔ CutBehindSigma front back := by
  simp only [CutBehindSigmaAfter, CutBehindSigma, List.append_nil,
    List.all_eq_true]

/--
A beginning stays a beginning in lower case, unless it is cut
off right behind a sigma.
-/
theorem lower_isPrefix_lower_append_iff (front back : Text) :
    lower front <+: lower (front ++ back) ↔ ¬ CutBehindSigma front back := by
  have sameLength := length_lowerWithin [] back front
  rw [← cutBehindSigmaAfter_nil_iff, ← lowerWithin_eq_lowerAfter_iff, lower,
    lower, lowerAfter_append]
  constructor
  · rintro ⟨rest, whole⟩
    exact (List.append_inj whole sameLength.symm).1.symm
  · intro same
    rw [same]
    exact List.prefix_append _ _

end OutlineLint.Text
