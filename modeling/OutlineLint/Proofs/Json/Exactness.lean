import OutlineLint.Proofs.Json.Decoding

/-!
# The decoder is exact

The decoder accepts every document of the grammar, so it accepts exactly these,
and a document stands for one value.

Where a form ends is told by what follows.  A reader that is handed a form
and something behind it takes the form and no more.  For numbers this
needs that no digit follows, and none does: behind a value there is white
space, a mark, or nothing.
-/

namespace OutlineLint.Json

/-! ## What follows a form -/

/--
The text does not go on with a digit, so no number in front of it would go on.
-/
def NoDigit (rest : Text) : Prop :=
  ∀ character ∈ rest.head?, character.isDigit = false

/-- A mark, which is neither white space nor a digit. -/
structure IsMark (mark : Char) : Prop where
  notSpace : isSpace mark = false
  notDigit : mark.isDigit = false

/-- The reader takes every form of at most `bound` characters off a text. -/
def CompleteTo {α : Type} (bound : Nat) (form : α → Text → Prop)
    (read? : Text → Option (α × Text)) : Prop :=
  ∀ ⦃item : α⦄ ⦃front rest : Text⦄, form item front → front.length ≤ bound →
    NoDigit rest →
    read? (front ++ rest) = some (item, rest)

theorem isDigit_of_isSpace
    {character : Char} (space : isSpace character = true) :
    character.isDigit = false := by
  simp only [isSpace, Bool.or_eq_true, decide_eq_true_eq] at space
  rcases space with ((rfl | rfl) | rfl) | rfl <;> rfl

theorem noDigit_cons
    {mark : Char} (notDigit : mark.isDigit = false) (rest : Text) :
    NoDigit (mark :: rest) := by
  intro character isFirst
  rw [List.head?_cons, Option.mem_some_iff] at isFirst
  rw [← isFirst, notDigit]

theorem noDigit_append
    {space : Text} (isSpaces : Spaces space) {rest : Text}
    (noDigit : NoDigit rest) :
    NoDigit (space ++ rest) := by
  cases space with
  | nil => exact noDigit
  | cons first space =>
      exact noDigit_cons
        (isDigit_of_isSpace (isSpaces first List.mem_cons_self)) _

theorem readWord?_append (word rest : Text) :
    readWord? word (word ++ rest) = some rest :=
  (readWord?_eq_some_iff ..).mpr rfl

theorem readWord?_singleton (mark : Char) (rest : Text) :
    readWord? [mark] (mark :: rest) = some rest :=
  readWord?_append [mark] rest

theorem readWord?_singleton_of_ne
    {mark first : Char} (different : first ≠ mark) (rest : Text) :
    readWord? [mark] (first :: rest) = none := by
  rw [Option.eq_none_iff_forall_ne_some]
  intro back read
  rw [readWord?_eq_some_iff] at read
  exact different (List.cons.inj read).1

theorem skip_append
    {space : Text} (isSpaces : Spaces space) {first : Char}
    (notSpace : isSpace first = false)
    (rest : Text) : skip (space ++ first :: rest) = first :: rest := by
  rw [skip, List.dropWhile_append_of_pos isSpaces,
    List.dropWhile_cons_of_neg (by simp [notSpace])]

/-! ## Numbers -/

theorem span_of_noDigit {rest : Text} (noDigit : NoDigit rest) :
    rest.takeWhile Char.isDigit = [] ∧ rest.dropWhile Char.isDigit = rest := by
  cases rest with
  | nil => exact ⟨rfl, rfl⟩
  | cons first rest =>
      have notDigit := noDigit first rfl
      exact ⟨List.takeWhile_cons_of_neg (by simp [notDigit]),
        List.dropWhile_cons_of_neg (by simp [notDigit])⟩

theorem readNatural?_append
    {digits rest : Text} (isNatural : Digits digits) (noDigit : NoDigit rest) :
    readNatural? (digits ++ rest) = some (valueOf digits, rest) := by
  obtain ⟨noneTaken, allLeft⟩ := span_of_noDigit noDigit
  have taken : (digits ++ rest).takeWhile Char.isDigit = digits := by
    rw [List.takeWhile_append_of_pos isNatural.decimal, noneTaken,
      List.append_nil]
  have left : (digits ++ rest).dropWhile Char.isDigit = rest := by
    rw [List.dropWhile_append_of_pos isNatural.decimal, allLeft]
  simp only [readNatural?, taken, left]
  rw [if_neg]
  simpa [isNatural.nonempty] using isNatural.shortest

theorem Digits.exists_cons {digits : Text} (isNatural : Digits digits) :
    ∃ first rest, digits = first :: rest ∧ first.isDigit = true := by
  obtain ⟨first, rest, rfl⟩ := List.exists_cons_of_ne_nil isNatural.nonempty
  exact ⟨first, rest, rfl, isNatural.decimal first List.mem_cons_self⟩

theorem readNumeral?_append
    {value : Int} {front rest : Text} (isNumeral : Numeral value front)
    (noDigit : NoDigit rest) :
    readNumeral? (front ++ rest) = some (value, rest) := by
  cases isNumeral with
  | natural isNatural =>
      obtain ⟨first, others, rfl, isDigit⟩ := isNatural.exists_cons
      have notMinus : first ≠ '-' := by
        rintro rfl
        exact absurd isDigit (by decide)
      rw [readNumeral?, List.cons_append, readWord?_singleton_of_ne notMinus,
        ← List.cons_append, readNatural?_append isNatural noDigit]
      rfl
  | negated isNatural =>
      rw [readNumeral?, List.cons_append, readWord?_singleton]
      dsimp only
      rw [readNatural?_append isNatural noDigit]
      rfl

/-! ## Strings -/

theorem readUnit?_append
    {unit : Nat} {digits : Text} (isUnit : CodeUnit unit digits)
    (rest : Text) : readUnit? (digits ++ rest) = some (unit, rest) := by
  have four := isUnit.four
  rw [readUnit?, if_neg (by rw [List.length_append]; omega), ← four,
    List.take_left, List.drop_left, isUnit.value]
  rfl

theorem readCharacter?_append
    {character : Char} {form : Text} (isForm : CharacterForm character form)
    (rest : Text) :
    readCharacter? (form ++ rest) = some (character, rest) := by
  cases isForm with
  | plain isPlain =>
      have notEscape : ¬ character = '\\' := by
        rintro rfl
        exact absurd isPlain (by decide)
      exact (if_neg notEscape).trans (if_pos isPlain)
  | @short letter _ meaning =>
      have notUnit : ¬ letter = 'u' := by
        rintro rfl
        exact absurd meaning nofun
      change readEscape? (letter :: rest) = _
      rw [readEscape?, if_neg notUnit, meaning]
      rfl
  | @unit unit digits isUnit notHigh notLow =>
      change readEscape? ('u' :: (digits ++ rest)) = _
      rw [readEscape?, if_pos rfl, readUnit?_append isUnit, Option.bind_some]
      dsimp only
      rw [readSurrogates?, if_neg (by simp [notHigh]),
        if_neg (by simp [notLow])]
  | @pair high low highDigits lowDigits highUnit isHigh lowUnit isLow =>
      have second :
          readWord? ['\\', 'u'] ('\\' :: 'u' :: lowDigits ++ rest) =
              some (lowDigits ++ rest) :=
        readWord?_append ['\\', 'u'] (lowDigits ++ rest)
      have whole :
          '\\' :: 'u' :: highDigits ++ '\\' :: 'u' :: lowDigits ++ rest =
          '\\' :: 'u' ::
            (highDigits ++ ('\\' :: 'u' :: lowDigits ++ rest)) := by
        simp
      rw [whole]
      change readEscape? ('u' :: (highDigits ++ _)) = _
      rw [readEscape?, if_pos rfl, readUnit?_append highUnit, Option.bind_some]
      dsimp only
      rw [readSurrogates?, if_pos isHigh, second]
      simp [readUnit?_append lowUnit, isLow]

/-- No form of a character begins like the end of the string. -/
theorem CharacterForm.exists_cons
    {character : Char} {form : Text} (isForm : CharacterForm character form) :
    ∃ first rest, form = first :: rest ∧ first ≠ '"' := by
  cases isForm with
  | plain isPlain =>
      refine ⟨character, [], rfl, ?_⟩
      rintro rfl
      exact absurd isPlain (by decide)
  | short | unit | pair => exact ⟨'\\', _, rfl, by decide⟩

theorem readCharacters?_append
    {text forms : Text} (areForms : CharacterForms text forms)
    {bound : Nat} (enough : forms.length < bound) (rest : Text) :
    readCharacters? bound (forms ++ '"' :: rest) = some (text, rest) := by
  induction areForms generalizing bound with
  | nil =>
      obtain ⟨bound, rfl⟩ :=
        Nat.exists_eq_add_one_of_ne_zero (Nat.ne_of_gt enough)
      rw [List.nil_append, readCharacters?, readWord?_singleton]
  | @cons character text form forms isForm areForms ih =>
      obtain ⟨bound, rfl⟩ :=
        Nat.exists_eq_add_one_of_ne_zero (Nat.ne_of_gt
          (Nat.zero_lt_of_lt enough))
      have readFirst := readCharacter?_append isForm (forms ++ '"' :: rest)
      obtain ⟨first, others, rfl, notQuote⟩ := isForm.exists_cons
      rw [List.length_append, List.length_cons] at enough
      have othersEnough : forms.length < bound := by omega
      have readOthers := ih othersEnough
      rw [List.append_assoc, readCharacters?, List.cons_append,
        readWord?_singleton_of_ne notQuote, ← List.cons_append, readFirst]
      dsimp only [Option.bind_eq_bind, Option.bind_some]
      rw [readOthers]
      rfl

theorem readString?_append
    {text front : Text} (isString : StringForm text front)
    {bound : Nat} (enough : front.length ≤ bound + 1) (rest : Text) :
    readString? bound (front ++ rest) = some (text, rest) := by
  cases isString with
  | @quoted forms areForms =>
      have whole :
          '"' :: forms ++ ['"'] ++ rest = '"' :: (forms ++ '"' :: rest) := by
        simp
      simp only [List.length_append, List.length_cons,
        List.length_nil] at enough
      rw [whole, readString?, readWord?_singleton, Option.bind_some]
      exact readCharacters?_append areForms (by omega) rest

theorem StringForm.exists_cons
    {text front : Text} (isString : StringForm text front) :
    ∃ rest, front = '"' :: rest := by
  cases isString with
  | quoted => exact ⟨_, rfl⟩

/-! ## Lists and objects -/

section Blocks

variable {α : Type} {form : α → Text → Prop}
  {readItem? : Text → Option (α × Text)}
variable {closer : Char}

/-- No form of an item begins like white space or like the closing bracket. -/
def BeginsInside (closer : Char) (form : α → Text → Prop) : Prop :=
  ∀ ⦃item : α⦄ ⦃front : Text⦄, form item front →
    ∃ first rest, front = first :: rest ∧ isSpace first = false ∧ first ≠ closer

theorem skip_form
    (begins : BeginsInside closer form) {space : Text} (isSpaces : Spaces space)
    {item : α} {text : Text} (isForm : form item text) (rest : Text) :
    skip (space ++ (text ++ rest)) = text ++ rest := by
  obtain ⟨first, others, rfl, notSpace, -⟩ := begins isForm
  exact skip_append isSpaces notSpace (others ++ rest)

theorem ItemForms.skip_eq
    (begins : BeginsInside closer form) {items : List α} {forms : Text}
    (areForms : ItemForms form items forms) (rest : Text) :
    ∃ first others, skip (forms ++ rest) = first :: others ∧
      first ≠ closer := by
  cases areForms with
  | last spaceBefore isForm _ | more spaceBefore isForm _ _ =>
      simp only [List.append_assoc, List.cons_append,
        skip_form begins spaceBefore isForm]
      obtain ⟨first, others, rfl, -, notCloser⟩ := begins isForm
      exact ⟨first, _, rfl, notCloser⟩

/--
What reading one item with the white space around it leaves
begins with the mark behind.
-/
theorem readItems?_step
    {limit : Nat} (complete : CompleteTo limit form readItem?)
    (begins : BeginsInside closer form) {item : α} {before text after : Text}
    (spaceBefore : Spaces before) (isForm : form item text)
    (spaceAfter : Spaces after)
    (withinLimit : text.length ≤ limit) {mark : Char} (isMark : IsMark mark)
    (bound : Nat) (rest : Text) :
    readItems? closer readItem? (bound + 1)
        (before ++ text ++ after ++ mark :: rest) =
      (readWord? [closer] (mark :: rest)).elim
        ((readWord? [','] (mark :: rest)).bind fun rest =>
          (readItems? closer readItem? bound rest).bind fun (items, rest) =>
            some (item :: items, rest))
        fun rest => some ([item], rest) := by
  have noDigit := noDigit_append spaceAfter (noDigit_cons isMark.notDigit rest)
  have readFirst := complete isForm withinLimit noDigit
  rw [List.append_assoc, List.append_assoc, readItems?,
    skip_form begins spaceBefore isForm, readFirst]
  simp only [Option.bind_eq_bind, Option.bind_some,
    skip_append spaceAfter isMark.notSpace]
  cases readWord? [closer] (mark :: rest) <;> rfl

theorem readItems?_append
    {limit : Nat} (complete : CompleteTo limit form readItem?)
    (begins : BeginsInside closer form)
    (isMark : IsMark closer) (notComma : ',' ≠ closer)
    {items : List α} {forms : Text} (areForms : ItemForms form items forms)
    (withinLimit : forms.length ≤ limit) {bound : Nat}
    (enough : forms.length ≤ bound) (rest : Text) :
    readItems? closer readItem? bound (forms ++ closer :: rest) =
      some (items, rest) := by
  induction areForms generalizing bound with
  | @last item before text after spaceBefore isForm spaceAfter =>
      obtain ⟨first, others, rfl, -, -⟩ := begins isForm
      simp only [List.length_append, List.length_cons] at withinLimit enough
      have positive : bound ≠ 0 := by omega
      obtain ⟨bound, rfl⟩ := Nat.exists_eq_add_one_of_ne_zero positive
      rw [readItems?_step complete begins spaceBefore isForm spaceAfter
        (by rw [List.length_cons]; omega) isMark, readWord?_singleton]
      rfl
  | @more item items before text after others spaceBefore isForm spaceAfter
      _ ih =>
      simp only [List.length_append, List.length_cons] at withinLimit enough
      have positive : bound ≠ 0 := by omega
      obtain ⟨bound, rfl⟩ := Nat.exists_eq_add_one_of_ne_zero positive
      have othersEnough : others.length ≤ bound := by omega
      have readOthers := ih (by omega) othersEnough
      rw [List.append_assoc, List.cons_append,
        readItems?_step complete begins spaceBefore isForm
          spaceAfter (by omega) ⟨rfl, rfl⟩, readWord?_singleton_of_ne notComma,
            Option.elim_none,
          readWord?_singleton, Option.bind_some, readOthers]
      rfl

theorem readBlock?_append
    {opener : Char} {bound : Nat} (complete : CompleteTo bound form readItem?)
    (begins : BeginsInside closer form) (isMark : IsMark closer)
    (notComma : ',' ≠ closer)
    {items : List α} {front : Text}
    (isBlock : BlockForm opener closer form items front)
    (enough : front.length ≤ bound + 1) (rest : Text) :
    readBlock? opener closer readItem? bound (front ++ rest) =
      some (items, rest) := by
  cases isBlock with
  | @empty between space =>
      have whole : opener :: between ++ [closer] ++ rest =
          opener :: (between ++ closer :: rest) := by
        simp
      rw [whole, readBlock?, readWord?_singleton, Option.bind_some,
        skip_append space isMark.notSpace, readWord?_singleton]
  | @full _ forms areForms =>
      have whole :
          opener :: forms ++ [closer] ++ rest =
              opener :: (forms ++ closer :: rest) := by
        simp
      obtain ⟨first, others, skipped, notCloser⟩ :=
        areForms.skip_eq begins (closer :: rest)
      simp only [List.length_append, List.length_cons,
        List.length_nil] at enough
      rw [whole, readBlock?, readWord?_singleton, Option.bind_some, skipped,
        readWord?_singleton_of_ne notCloser]
      exact readItems?_append complete begins isMark notComma areForms
        (by omega) (by omega) rest

end Blocks

theorem readMember?_complete
    {bound : Nat} {form : Json → Text → Prop}
    {readValue? : Text → Option (Json × Text)}
    {closer : Char} (complete : CompleteTo bound form readValue?)
    (begins : BeginsInside closer form) :
    CompleteTo bound (MemberForm form) (readMember? bound readValue?) := by
  intro member front rest isMember enough noDigit
  cases isMember with
  | @named key keyForm before after text value isKey spaceBefore spaceAfter
      isForm =>
      simp only [List.length_append, List.length_cons] at enough
      have whole : keyForm ++ before ++ ':' :: after ++ text ++ rest =
          keyForm ++ (before ++ ':' :: (after ++ (text ++ rest))) := by
        simp
      have keyEnough : keyForm.length ≤ bound + 1 := by omega
      have readKey :=
        readString?_append isKey keyEnough
          (before ++ ':' :: (after ++ (text ++ rest)))
      have toColon : skip (before ++ ':' :: (after ++ (text ++ rest))) =
          ':' :: (after ++ (text ++ rest)) := skip_append spaceBefore rfl _
      have readItem := complete isForm (by omega) noDigit
      rw [whole, readMember?, readKey]
      simp only [Option.bind_eq_bind, Option.bind_some, toColon,
        readWord?_singleton, skip_form begins spaceAfter isForm, readItem]

/-! ## Values -/

theorem Numeral.exists_cons
    {value : Int} {front : Text} (isNumeral : Numeral value front) :
    ∃ first rest, front = first :: rest ∧
      (first.isDigit = true ∨ first = '-') := by
  cases isNumeral with
  | natural isNatural =>
      obtain ⟨first, rest, rfl, isDigit⟩ := isNatural.exists_cons
      exact ⟨first, rest, rfl, Or.inl isDigit⟩
  | negated => exact ⟨'-', _, rfl, Or.inr rfl⟩

theorem ValueForm.begins : BeginsInside ']' ValueForm := by
  intro value front isForm
  cases isForm with
  | null | yes | no => exact ⟨_, _, rfl, by decide⟩
  | integer isNumeral =>
      obtain ⟨first, rest, rfl, isDigit | rfl⟩ := isNumeral.exists_cons
      · refine ⟨first, rest, rfl, ?_, ?_⟩
        · rw [Bool.eq_false_iff]
          intro space
          rw [isDigit_of_isSpace space] at isDigit
          contradiction
        · rintro rfl
          exact absurd isDigit (by decide)
      · exact ⟨'-', rest, rfl, by decide⟩
  | text isString =>
      obtain ⟨rest, rfl⟩ := isString.exists_cons
      exact ⟨'"', rest, rfl, by decide⟩
  | list isBlock | object isBlock =>
      cases isBlock <;> exact ⟨_, _, rfl, by decide⟩

theorem MemberForm.begins : BeginsInside '}' (MemberForm ValueForm) := by
  intro member front isMember
  cases isMember with
  | named isKey =>
      obtain ⟨rest, rfl⟩ := isKey.exists_cons
      exact ⟨'"', _, rfl, by decide⟩

theorem readValue?_complete (bound : Nat) :
    CompleteTo bound ValueForm (readValue? bound) := by
  induction bound with
  | zero =>
      intro value front rest isForm enough
      obtain ⟨first, others, rfl, -⟩ := ValueForm.begins isForm
      exact absurd enough (Nat.not_succ_le_zero _)
  | succ bound ih =>
      intro value front rest isForm enough noDigit
      cases isForm with
      | null => rfl
      | yes => rfl
      | no => rfl
      | integer isNumeral =>
          have read := readNumeral?_append isNumeral noDigit
          obtain ⟨first, others, rfl, startsNumber⟩ := isNumeral.exists_cons
          rw [readValue?, List.cons_append, List.head?_cons]
          -- A digit and a minus sign begin nothing but a number.
          split
          case h_1 same => contradiction
          case h_8 =>
            rw [← List.cons_append, read]
            rfl
          all_goals
            next same =>
              cases same
              exact absurd startsNumber (by decide)
      | text isString =>
          have read := readString?_append isString enough rest
          obtain ⟨others, rfl⟩ := isString.exists_cons
          rw [readValue?, List.cons_append, List.head?_cons, ← List.cons_append,
            read]
          rfl
      | list isBlock =>
          have read :=
            readBlock?_append ih ValueForm.begins ⟨rfl, rfl⟩
              (by decide) isBlock enough rest
          have opened : (front ++ rest).head? = some '[' := by
            cases isBlock <;> rfl
          rw [readValue?, opened, read]
          rfl
      | object isBlock =>
          have complete := readMember?_complete ih ValueForm.begins
          have read :=
            readBlock?_append complete MemberForm.begins ⟨rfl, rfl⟩
              (by decide) isBlock enough rest
          have opened : (front ++ rest).head? = some '\x7b' := by
            cases isBlock <;> rfl
          rw [readValue?, opened, read]
          rfl

/-! ## Documents -/

theorem decode?_of_document
    {value : Json} {input : Text} (isDocument : Document value input) :
    decode? input = some value := by
  cases isDocument with
  | @padded before text after spaceBefore isForm spaceAfter =>
      have noDigit : NoDigit after := by
        have atEnd : NoDigit (after ++ []) := noDigit_append spaceAfter nofun
        rwa [List.append_nil] at atEnd
      have enough : text.length ≤ (before ++ text ++ after).length := by
        simp only [List.length_append]
        omega
      have read := readValue?_complete _ isForm enough noDigit
      have skipped : skip (before ++ text ++ after) = text ++ after := by
        rw [List.append_assoc, skip_form ValueForm.begins spaceBefore isForm]
      rw [decode?, skipped, read]
      exact if_pos (List.all_eq_true.mpr spaceAfter)

/-- The decoder accepts the documents of the grammar and nothing else. -/
theorem decode?_eq_some_iff (input : Text) (value : Json) :
    decode? input = some value ↔ Document value input :=
  ⟨document_of_decode?, decode?_of_document⟩

example :
    decode? " [ -12 ,\"\\u00e9\\ud83d\\ude00\"]".toList =
      some (.list [.integer (-12), .text ['é', '😀']]) := by
  rfl

end OutlineLint.Json
