import OutlineLint.Text.Basic

/-!
# Patterns

A pattern describes texts by classes of characters: one character, a run of
them, two patterns in sequence, or a part that may be absent.

A text is compared with a pattern by a search.  The search reads the text from
its beginning, and where it is stuck it goes back to its last choice: it tries
longer runs before shorter ones, and an optional part before its absence.  A
text is accepted if one of the ways to read it leaves nothing.  These are
exactly the texts that the pattern describes.
-/

namespace OutlineLint

inductive Pattern where
  /-- One character of the class. -/
  | single (isOfClass : Char → Bool)
  /-- One or more characters of the class. -/
  | run (isOfClass : Char → Bool)
  | sequence (first second : Pattern)
  | optional (part : Pattern)

namespace Pattern

/-- The texts that a pattern stands for. -/
def Describes : Pattern → Text → Prop
  | single isOfClass, text =>
      ∃ character : Char, isOfClass character = true ∧ text = [character]
  | run isOfClass, text =>
      text ≠ [] ∧ ∀ character ∈ text, isOfClass character = true
  | sequence first second, text =>
      ∃ beginning rest : Text,
        first.Describes beginning ∧ second.Describes rest ∧
          text = beginning ++ rest
  | optional part, text => part.Describes text ∨ text = []

/-! ## The search -/

/--
What is left of a text after each run that it begins
with, the longest run first.
-/
def restsAfterRun (isOfClass : Char → Bool) : Text → List Text
  | [] => []
  | character :: rest =>
      if isOfClass character then restsAfterRun isOfClass rest ++ [rest] else []

/--
What is left of a text after each beginning that is read, in
the order of the search.
-/
def rests : Pattern → Text → List Text
  | single _, [] => []
  | single isOfClass, character :: rest =>
      if isOfClass character then [rest] else []
  | run isOfClass, text => restsAfterRun isOfClass text
  | sequence first second, text => (first.rests text).flatMap second.rests
  | optional part, text => part.rests text ++ [text]

/-- The search finds a way to read the whole text. -/
def accepts (pattern : Pattern) (text : Text) : Bool :=
  (pattern.rests text).any (·.isEmpty)

/-! ## What the search finds -/

theorem mem_restsAfterRun_iff (isOfClass : Char → Bool) (text rest : Text) :
    rest ∈ restsAfterRun isOfClass text ↔
      ∃ beginning : Text, (run isOfClass).Describes beginning ∧
        text = beginning ++ rest := by
  induction text with
  | nil =>
      simp only [restsAfterRun, List.not_mem_nil, false_iff]
      rintro ⟨beginning, ⟨nonempty, _⟩, whole⟩
      exact nonempty (List.append_eq_nil_iff.mp whole.symm).1
  | cons character others ih =>
      constructor
      · intro member
        rw [restsAfterRun] at member
        split at member
        · next isIn =>
            rcases List.mem_append.mp member with longer | shortest
            · obtain ⟨beginning, ⟨_, areIn⟩, rfl⟩ := ih.mp longer
              exact ⟨character :: beginning,
                ⟨List.cons_ne_nil _ _, List.forall_mem_cons.mpr ⟨isIn, areIn⟩⟩,
                rfl⟩
            · obtain rfl := List.mem_singleton.mp shortest
              exact ⟨[character],
                ⟨List.cons_ne_nil _ _, List.forall_mem_singleton.mpr isIn⟩, rfl⟩
        · cases member
      · rintro ⟨beginning, ⟨nonempty, areIn⟩, whole⟩
        obtain ⟨first, more, rfl⟩ := List.exists_cons_of_ne_nil nonempty
        obtain ⟨rfl, rfl⟩ := List.cons.inj whole
        obtain ⟨isIn, moreIn⟩ := List.forall_mem_cons.mp areIn
        rw [restsAfterRun, if_pos isIn, List.mem_append, ih]
        -- The run ends after this character or goes on as
        -- a run of what follows.
        cases more with
        | nil => exact Or.inr (List.mem_singleton_self rest)
        | cons second further =>
            exact Or.inl
              ⟨second :: further, ⟨List.cons_ne_nil _ _, moreIn⟩, rfl⟩

/--
The search meets exactly the rests of the beginnings that the pattern describes.
-/
theorem mem_rests_iff (pattern : Pattern) (text rest : Text) :
    rest ∈ pattern.rests text ↔
      ∃ beginning : Text, pattern.Describes beginning ∧
        text = beginning ++ rest := by
  induction pattern generalizing text rest with
  | single isOfClass =>
      constructor
      · intro member
        cases text with
        | nil => cases member
        | cons character others =>
            rw [rests] at member
            split at member
            · next isIn =>
                obtain rfl := List.mem_singleton.mp member
                exact ⟨[character], ⟨character, isIn, rfl⟩, rfl⟩
            · cases member
      · rintro ⟨_, ⟨character, isIn, rfl⟩, rfl⟩
        rw [List.singleton_append, rests, if_pos isIn]
        exact List.mem_singleton_self rest
  | run isOfClass => exact mem_restsAfterRun_iff isOfClass text rest
  | sequence first second firstIH secondIH =>
      rw [rests, List.mem_flatMap]
      constructor
      · rintro ⟨middle, inFirst, inSecond⟩
        obtain ⟨beginning, isFirst, rfl⟩ := (firstIH text middle).mp inFirst
        obtain ⟨next, isSecond, rfl⟩ := (secondIH middle rest).mp inSecond
        exact ⟨beginning ++ next, ⟨beginning, next, isFirst, isSecond, rfl⟩,
          (List.append_assoc _ _ _).symm⟩
      · rintro ⟨_, ⟨beginning, next, isFirst, isSecond, rfl⟩, rfl⟩
        exact ⟨next ++ rest,
          (firstIH _ _).mpr ⟨beginning, isFirst, List.append_assoc _ _ _⟩,
          (secondIH _ _).mpr ⟨next, isSecond, rfl⟩⟩
  | optional part ih =>
      rw [rests, List.mem_append, List.mem_singleton, ih]
      constructor
      · rintro (⟨beginning, isPart, whole⟩ | rfl)
        · exact ⟨beginning, Or.inl isPart, whole⟩
        · exact ⟨[], Or.inr rfl, rfl⟩
      · rintro ⟨beginning, isPart | rfl, whole⟩
        · exact Or.inl ⟨beginning, isPart, whole⟩
        · exact Or.inr whole.symm

/-- The search accepts exactly the texts that the pattern describes. -/
theorem accepts_iff (pattern : Pattern) (text : Text) :
    pattern.accepts text = true ↔ pattern.Describes text := by
  have nothingLeft : pattern.accepts text = true ↔ [] ∈ pattern.rests text := by
    simp [accepts]
  rw [nothingLeft, mem_rests_iff]
  constructor
  · rintro ⟨beginning, isDescribed, whole⟩
    rwa [whole, List.append_nil]
  · intro isDescribed
    exact ⟨text, isDescribed, (List.append_nil text).symm⟩

end Pattern

end OutlineLint
