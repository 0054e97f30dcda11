import OutlineLint.Text.Lowercase

/-!
# Lower-casing twice

Lower-casing a text in lower case changes nothing.  No run of the table leads
into a run or to the capital I with a dot: the images of a run lie before or
behind the other run, or between the code points that a run of step two takes.
So every character that lower-casing writes stands for itself, whatever its
neighbours are.
-/

namespace OutlineLint.Text

/-- The lower-case form that the run gives to a code point. -/
def LowerRun.image (run : LowerRun) (code : Nat) : Nat :=
  (code + run.offset).toNat

/--
The run covers no code point from `low` to `high`, or none at an even distance
from `low` if only those are asked for.
-/
def LowerRun.avoids
    (run : LowerRun) (low high : Nat) (evenOnly : Bool) : Bool :=
  Nat.blt high run.first || Nat.blt run.last low ||
    (evenOnly && Nat.beq run.step 2 && Nat.beq ((run.first + low) % 2) 1)

/-- The lower-case forms of the run are covered by none of the others. -/
def LowerRun.leadsOutside (run : LowerRun) (others : List LowerRun) : Bool :=
  0 ≤ run.first + run.offset &&
    others.all (·.avoids (run.image run.first) (run.image run.last)
      (Nat.beq run.step 2 || Nat.beq run.first run.last))

/-- The capital I with a dot, as a run. -/
def dottedCapitalRun : LowerRun :=
  ⟨0x130, 0x130, 1, 0⟩

theorem not_covers_of_leadsOutside
    {run other : LowerRun} {others : List LowerRun}
    (outside : run.leadsOutside others = true) (member : other ∈ others)
    {code : Nat} (covered : run.covers code = true) :
    other.covers (run.image code) = false := by
  simp only [LowerRun.covers, Bool.and_eq_true, decide_eq_true_eq,
    beq_iff_eq] at covered
  obtain ⟨⟨lowerBound, upperBound⟩, inStep⟩ := covered
  rw [LowerRun.leadsOutside, Bool.and_eq_true, decide_eq_true_eq] at outside
  obtain ⟨inRange, avoidsAll⟩ := outside
  have avoids := List.all_eq_true.mp avoidsAll other member
  rw [Bool.eq_false_iff]
  intro taken
  simp only [LowerRun.covers, Bool.and_eq_true, decide_eq_true_eq,
    beq_iff_eq] at taken
  obtain ⟨⟨takenLower, takenUpper⟩, takenStep⟩ := taken
  simp only [LowerRun.avoids, Bool.or_eq_true, Bool.and_eq_true, Nat.blt_eq,
      Nat.beq_eq, LowerRun.image]
    at avoids takenLower takenUpper takenStep
  rcases avoids
    with (behind | before) | ⟨⟨evenStep | single, otherStep⟩, parity⟩
  · omega
  · omega
  · rw [evenStep] at inStep
    rw [otherStep] at takenStep
    omega
  · rw [otherStep] at takenStep
    omega

/-- No run of the table leads into the table or to the capital I with a dot. -/
theorem lowerRuns_leadOutside :
    (lowerRuns.all
      (·.leadsOutside (dottedCapitalRun :: lowerRuns))) = true := by
  decide +kernel

/-! ## Characters that stand for themselves -/

/--
The character has no lower-case form but itself, whatever its neighbours are.
-/
structure IsLower (character : Char) : Prop where
  ne_sigma : character ≠ 'Σ'
  ne_dotted : character ≠ 'İ'
  code_fixed : Char.ofNat (lowerCode character.toNat) = character

theorem IsLower.lowerBetween_eq
    {character : Char} (isLower : IsLower character) (before after : Text) :
    lowerBetween before character after = [character] := by
  rw [lowerBetween, if_neg isLower.ne_sigma, if_neg isLower.ne_dotted,
    isLower.code_fixed]

theorem toNat_ofNat_of_valid {code : Nat} (valid : code.isValidChar) :
    (Char.ofNat code).toNat = code := by
  rw [Char.ofNat, dif_pos valid]
  rfl

/--
A code point outside the table, the capital I with a dot
apart, stands for itself.
-/
theorem isLower_ofNat
    {code : Nat}
    (uncovered :
      ∀ run ∈ dottedCapitalRun :: lowerRuns, run.covers code = false) :
    IsLower (Char.ofNat code) := by
  have notFound : lowerRuns.find? (·.covers code) = none := by
    rw [List.find?_eq_none]
    intro run member
    simp [uncovered run (List.mem_cons_of_mem _ member)]
  by_cases valid : code.isValidChar
  · have codeOf := toNat_ofNat_of_valid valid
    refine ⟨?_, ?_, ?_⟩
    · intro isSigma
      rw [← codeOf, isSigma] at notFound
      revert notFound
      decide
    · intro isDotted
      have notDotted := uncovered dottedCapitalRun List.mem_cons_self
      rw [← codeOf, isDotted] at notDotted
      revert notDotted
      decide
    · rw [codeOf, lowerCode, notFound]
  · have isNull : Char.ofNat code = Char.ofNat 0 := by
      rw [Char.ofNat, dif_neg valid]
      rfl
    rw [isNull]
    exact ⟨by decide, by decide, by decide⟩

/-- A form that the table gives stands for itself. -/
theorem isLower_ofNat_lowerCode
    {character : Char} (notSigma : character ≠ 'Σ')
    (notDotted : character ≠ 'İ') :
    IsLower (Char.ofNat (lowerCode character.toNat)) := by
  cases search : lowerRuns.find? (·.covers character.toNat) with
  | some run =>
      have member : run ∈ lowerRuns := List.mem_of_find?_eq_some search
      have covered : run.covers character.toNat = true := by
        simpa using List.find?_some search
      rw [lowerCode, search]
      apply isLower_ofNat
      intro other otherMember
      exact not_covers_of_leadsOutside
        (List.all_eq_true.mp lowerRuns_leadOutside run member) otherMember
        covered
  | none =>
      have fixed : Char.ofNat (lowerCode character.toNat) = character := by
        rw [lowerCode, search, Char.ofNat_toNat]
      rw [fixed]
      exact ⟨notSigma, notDotted, fixed⟩

/-- Every character in the lower-case form of a character stands for itself. -/
theorem isLower_of_mem_lowerBetween
    {before after : Text} {character lowered : Char}
    (member : lowered ∈ lowerBetween before character after) :
    IsLower lowered := by
  rw [lowerBetween] at member
  split at member
  · split at member
    · cases List.mem_singleton.mp member
      exact ⟨by decide, by decide, by decide⟩
    · cases List.mem_singleton.mp member
      exact ⟨by decide, by decide, by decide⟩
  · next notSigma =>
    split at member
    · simp only [List.mem_cons, List.not_mem_nil, or_false] at member
      rcases member with rfl | rfl
      · exact ⟨by decide, by decide, by decide⟩
      · exact ⟨by decide, by decide, by decide⟩
    · next notDotted =>
      cases List.mem_singleton.mp member
      exact isLower_ofNat_lowerCode notSigma notDotted

/-! ## Texts -/

theorem isLower_of_mem_lowerAfter
    {before text : Text} {lowered : Char}
    (member : lowered ∈ lowerAfter before text) :
    IsLower lowered := by
  induction text generalizing before with
  | nil => cases member
  | cons character rest ih =>
      rw [lowerAfter, List.mem_append] at member
      rcases member with here | later
      · exact isLower_of_mem_lowerBetween here
      · exact ih later

theorem lowerAfter_eq_self
    (before : Text) {text : Text}
    (isLower : ∀ character ∈ text, IsLower character) :
    lowerAfter before text = text := by
  induction text generalizing before with
  | nil => rfl
  | cons character rest ih =>
      rw [lowerAfter, (isLower character List.mem_cons_self).lowerBetween_eq,
        ih (character :: before) fun other member =>
        isLower other (List.mem_cons_of_mem _ member), List.singleton_append]

/-- A text in lower case is its own lower-case form. -/
@[simp]
theorem lower_lower (text : Text) : text.lower.lower = text.lower :=
  lowerAfter_eq_self [] fun _ member => isLower_of_mem_lowerAfter member

end OutlineLint.Text
