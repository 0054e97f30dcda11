import OutlineLint.Proofs.Balance.Language
import OutlineLint.Proofs.Check.Messages
import OutlineLint.Proofs.Guarded.Reading

/-!
# Guarded checks

The checks of a text with every operation that can fail kept as one: a bracket
is taken from the stack of open ones, the partner of a character is looked up, a
row is looked up in the table of texts seen before, and a dotted reference is
taken apart into two segments.

None of these fails on any text, the guarded check has the findings of the text,
and each of them has a message.
-/

namespace OutlineLint.Guarded

/-! ## Brackets -/

/-- A table with one entry for each kind of bracket. -/
def bracketTable (key value : Bracket → Char) : List (Char × Char) :=
  [Bracket.round, .curly, .square].map fun bracket =>
    (key bracket, value bracket)

/-- The closing bracket of each opening one. -/
def closers : List (Char × Char) :=
  bracketTable Bracket.opener Bracket.closer

/-- The opening bracket of each closing one. -/
def openers : List (Char × Char) :=
  bracketTable Bracket.closer Bracket.opener

/-- A table that has all kinds in question finds the kind of a character. -/
theorem lookup_map_kinds
    {key : Bracket → Char} {kind? : Char → Option Bracket}
    (isKind : ∀ (character : Char) (bracket : Bracket),
      kind? character = some bracket ↔ character = key bracket)
    (value : Bracket → Char) {character : Char} {brackets : List Bracket}
    (complete : ∀ bracket ∈ kind? character, bracket ∈ brackets) :
    (brackets.map fun bracket => (key bracket, value bracket)).lookup
        character =
      (kind? character).map value := by
  induction brackets with
  | nil =>
      cases found : kind? character with
      | none => rfl
      | some bracket => exact absurd (complete bracket found) List.not_mem_nil
  | cons first rest ih =>
      rw [List.map_cons, List.lookup_cons]
      by_cases same : character = key first
      · rw [beq_iff_eq.mpr same, (isKind character first).mpr same]
        rfl
      · rw [beq_false_of_ne same]
        apply ih
        intro bracket isBracket
        refine (List.mem_cons.mp (complete bracket isBracket)).resolve_left ?_
        rintro rfl
        exact same ((isKind character bracket).mp isBracket)

theorem lookup_bracketTable
    {key : Bracket → Char} {kind? : Char → Option Bracket}
    (isKind : ∀ (character : Char) (bracket : Bracket),
      kind? character = some bracket ↔ character = key bracket)
    (value : Bracket → Char) (character : Char) :
    (bracketTable key value).lookup character =
      (kind? character).map value := by
  apply lookup_map_kinds isKind
  intro bracket _
  cases bracket <;> decide

theorem lookup_closers (character : Char) :
    closers.lookup character =
      (Bracket.ofOpener? character).map Bracket.closer :=
  lookup_bracketTable Bracket.ofOpener?_eq_some_iff Bracket.closer character

theorem lookup_openers (character : Char) :
    openers.lookup character =
      (Bracket.ofCloser? character).map Bracket.opener :=
  lookup_bracketTable Bracket.ofCloser?_eq_some_iff Bracket.opener character

/--
The finding about the remaining characters, with the
opening brackets still open.
-/
def scan (file : Text) (pending : List (Char × Position)) :
    List (Char × Position) → Except Breach (Option Finding)
  | [] =>
      if pending.isEmpty then
        return none
      else do
        let (opener, openedAt) ← require pending.head? .noPending
        return some ⟨file, openedAt, .balance .unclosed [opener] none none⟩
  | (character, here) :: rest =>
      if (closers.lookup character).isSome then
        scan file ((character, here) :: pending) rest
      else if (openers.lookup character).isSome then
        if pending.isEmpty then
          return some ⟨file, here, .balance .unmatched [character] none none⟩
        else do
          let (opener, openedAt) ← require pending.head? .noPending
          let partner ← require (openers.lookup character) .noPartner
          if opener = partner then
            scan file pending.tail rest
          else
            let expected ← require (closers.lookup opener) .noPartner
            return some
              ⟨file, here,
                .balance .mismatched [character] (some openedAt)
                  (some [expected])⟩
      else
        scan file pending rest

/-- An open bracket as it lies on the stack. -/
def stacked (opened : OpenBracket) : Char × Position :=
  (opened.bracket.opener, opened.position)

/--
On a stack of opening brackets the scan does not fail, and
its finding is the problem.
-/
theorem scan_eq_ok
    (file : Text) (pending : List OpenBracket)
    (located : List (Char × Position)) :
    scan file (pending.map stacked) located =
      .ok ((Balance.scan pending located).map
        (BracketProblem.finding file)) := by
  induction located generalizing pending with
  | nil => cases pending <;> rfl
  | cons head rest ih =>
      obtain ⟨character, here⟩ := head
      rw [scan, Balance.scan, lookup_closers, lookup_openers, Option.isSome_map,
        Option.isSome_map]
      cases opens : Bracket.ofOpener? character with
      | some bracket =>
          rw [Bracket.ofOpener?_eq_some_iff] at opens
          subst opens
          exact ih (⟨bracket, here⟩ :: pending)
      | none =>
          cases closes : Bracket.ofCloser? character with
          | none => exact ih pending
          | some bracket =>
              rw [Bracket.ofCloser?_eq_some_iff] at closes
              subst closes
              cases pending with
              | nil => rfl
              | cons innermost outer =>
                  simp only [List.map_cons, List.isEmpty_cons, List.head?_cons,
                    List.tail_cons, Option.isSome_none, Option.isSome_some,
                    Option.map_some, Bool.false_eq_true, if_false, if_true,
                    require_some, ok_bind, stacked]
                  by_cases same : innermost.bracket = bracket
                  · rw [if_pos (congrArg Bracket.opener same), if_pos same]
                    exact ih outer
                  · rw [if_neg fun equal =>
                        same (Bracket.opener_injective equal),
                      if_neg same, lookup_closers, Bracket.ofOpener?_opener]
                    rfl

/-! ## Duplicate entries -/

/-- The repetitions among items, given the rows of the texts seen before. -/
def repetitionsAfter (seen : List (Text × Int)) :
    List Item → Except Breach (List Duplicate.Repetition)
  | [] => return []
  | item :: rest =>
      if (seen.lookup item.normalized).isSome then do
        let firstRow ← require (seen.lookup item.normalized) .noFirstRow
        let later ← repetitionsAfter seen rest
        return ⟨item, firstRow⟩ :: later
      else
        repetitionsAfter ((item.normalized, item.position.row) :: seen) rest

def scopeDuplicates (file scope : Text) (items : List Item) :
    Except Breach (List Finding) := do
  let repetitions ← repetitionsAfter [] items
  return repetitions.map (Duplicate.Repetition.finding file scope)

def sectionDuplicates (file : Text) (entry : Section) :
    Except Breach (List Finding) := do
  let own ← scopeDuplicates file entry.name entry.items
  let parts ← entry.subsections.mapM fun part =>
    scopeDuplicates file
      (Duplicate.subsectionScope entry.name part.name) part.items
  return own
    ++ entry.repeatedHeaders.map (fun again =>
        Duplicate.Repetition.finding file entry.name
          ⟨again.header, again.firstRow⟩)
    ++ parts.flatten

def duplicates (file : Text) (outline : Outline) :
    Except Breach (List Finding) := do
  let parts ← outline.sections.mapM (sectionDuplicates file)
  return parts.flatten

theorem repetitionsAfter_eq_ok (seen : List (Text × Int)) (items : List Item) :
    repetitionsAfter seen items =
      .ok (Duplicate.repetitionsAfter seen items) := by
  induction items generalizing seen with
  | nil => rfl
  | cons item rest ih =>
      rw [repetitionsAfter, Duplicate.repetitionsAfter]
      cases seen.lookup item.normalized with
      | none => exact ih _
      | some firstRow =>
          rw [Option.isSome_some, if_pos rfl, require_some, ok_bind, ih,
            ok_bind]
          rfl

theorem scopeDuplicates_eq_ok (file scope : Text) (items : List Item) :
    scopeDuplicates file scope items =
      .ok (Duplicate.scopeFindings file scope items) := by
  rw [scopeDuplicates, repetitionsAfter_eq_ok]
  rfl

/-- Where no element fails, the whole list does not. -/
theorem mapM_eq_ok
    {Element Result : Type} {result : Element → Except Breach Result}
    {total : Element → Result}
    (succeeds : ∀ element : Element, result element = .ok (total element))
    (elements : List Element) :
    elements.mapM result = .ok (elements.map total) := by
  rw [funext succeeds]
  exact List.mapM_pure

theorem sectionDuplicates_eq_ok (file : Text) (entry : Section) :
    sectionDuplicates file entry =
      .ok (Duplicate.sectionFindings file entry) := by
  rw [sectionDuplicates, scopeDuplicates_eq_ok, ok_bind,
    mapM_eq_ok fun part : Subsection =>
      scopeDuplicates_eq_ok file
        (Duplicate.subsectionScope entry.name part.name) part.items]
  rfl

theorem duplicates_eq_ok (file : Text) (outline : Outline) :
    duplicates file outline = .ok (Duplicate.findings file outline) := by
  rw [duplicates, mapM_eq_ok (sectionDuplicates_eq_ok file)]
  rfl

/-! ## References -/

/-- Takes apart a list that has to have two elements. -/
def unpackTwo (segments : List Text) : Except Breach (Text × Text) :=
  match segments with
  | [first, second] => .ok (first, second)
  | _ => .error .notTwoSegments

def missing? (outline : Outline) (trimmed : Text) :
    Except Breach (Option (ReferenceFault × Option Text × Option Text)) :=
  if trimmed.contains '.' then do
    let (sectionName, memberName) ←
      unpackTwo (((trimmed.splitOn '.').take 2).map
        Resolution.normalizedSegment)
    match outline.sectionNamed? sectionName with
    | none => return some (.unknownPrefix, some sectionName, none)
    | some entry =>
        if Resolution.sectionKnows entry memberName then
          return none
        else
          return some (.suffixNotFound, some sectionName, some memberName)
  else if (outline.sectionNamed? trimmed).isNone then
    return some (.unknownSection, none, none)
  else
    return none

def unresolved? (outline : Outline) (reference : Reference) :
    Except Breach (Option Finding) :=
  if Resolution.isExempt reference.text.trim then
    return none
  else do
    let missing ← missing? outline reference.text.trim
    return missing.map fun (fault, first, second) =>
      ⟨reference.file, reference.position,
        .unresolved fault reference.text.trim first second⟩

def unresolved (outline : Outline) : Except Breach (List Finding) := do
  let found ← outline.references.mapM (unresolved? outline)
  return found.filterMap id

/-- A text with a dot has two segments. -/
theorem missing?_eq_ok (outline : Outline) (trimmed : Text) :
    missing? outline trimmed = .ok (Resolution.missing? outline trimmed) := by
  rw [missing?]
  by_cases dotted : '.' ∈ trimmed
  · obtain ⟨first, second, segments⟩ := Resolution.exists_firstSegments dotted
    obtain ⟨more, split⟩ := Resolution.splitOn_of_firstSegments segments
    have unpacked :
        unpackTwo (((trimmed.splitOn '.').take 2).map
            Resolution.normalizedSegment) =
          .ok (Resolution.normalizedSegment first,
            Resolution.normalizedSegment second) := by
      rw [split]
      rfl
    rw [if_pos (List.contains_iff_mem.mpr dotted), unpacked, ok_bind,
      Resolution.missing?_of_firstSegments outline segments]
    dsimp only [Resolution.normalizedSegment]
    cases outline.sectionNamed? first.trim.lower with
    | none => rfl
    | some entry =>
        dsimp only
        split <;> rfl
  · rw [if_neg (by simpa using dotted),
      Resolution.missing?_of_dotless outline dotted]
    split <;> rfl

theorem unresolved?_eq_ok (outline : Outline) (reference : Reference) :
    unresolved? outline reference =
      .ok (Resolution.finding? outline reference) := by
  rw [unresolved?, missing?_eq_ok, ok_bind, Resolution.finding?]
  dsimp only
  split <;> rfl

theorem unresolved_eq_ok (outline : Outline) :
    unresolved outline = .ok (Resolution.findings outline) := by
  rw [unresolved, mapM_eq_ok (unresolved?_eq_ok outline), ok_bind,
    List.filterMap_map]
  rfl

/-! ## Whole texts -/

/-- Checks a text with guarded operations. -/
def check (file text : Text) : Except Breach (List Finding) := do
  match ← scan file [] text.located with
  | some finding => return [finding]
  | none => do
      let outline ← parse file text
      let repeated ← duplicates file outline
      let missing ← unresolved outline
      return repeated ++ missing

theorem check_eq_ok (file text : Text) :
    check file text = .ok (Check.findings file text) := by
  have scanned : scan file [] text.located = .ok (Balance.finding? file text) :=
    scan_eq_ok file [] text.located
  rw [check, scanned, ok_bind]
  cases found : Balance.finding? file text with
  | some finding =>
      rw [Check.findings_of_unbalanced found]
      rfl
  | none =>
      rw [Check.findings_of_balanced found]
      dsimp only
      rw [parse_eq_ok, ok_bind, duplicates_eq_ok, ok_bind, unresolved_eq_ok]
      rfl

/--
A mismatch that is found names its opening bracket and the
bracket that was expected.
-/
theorem isSome_of_mismatched
    {file text : Text} {finding : Finding}
    (member : finding ∈ Check.findings file text)
    {bracket : Text} {openedAt : Option Position} {expected : Option Text}
    (isMismatch :
      finding.detail = .balance .mismatched bracket openedAt expected) :
    openedAt.isSome = true ∧ expected.isSome = true := by
  rcases Check.mem_findings_cases member with found | duplicate | missing
  · obtain ⟨problem, _, rfl⟩ := Option.map_eq_some_iff.mp found
    cases problem with
    | mismatched closing place opened =>
        cases isMismatch
        exact ⟨rfl, rfl⟩
    | unmatched closing place | unclosed opened => cases isMismatch
  · obtain ⟨opened, _, inSection⟩ := List.mem_flatMap.mp duplicate
    obtain ⟨scope, repetition, _, rfl⟩ :=
      Duplicate.exists_reportedIn_of_mem_sectionFindings inSection
    cases isMismatch
  · obtain ⟨reference, _, found⟩ := List.mem_filterMap.mp missing
    rw [Resolution.finding?_eq_some_iff] at found
    cases found <;> cases isMismatch

/--
The check of any text comes to its end without a breach, and every finding has
its message.
-/
theorem check_completes (file text : Text) :
    check file text = .ok (Check.findings file text) ∧
      (∃ messages : List Text,
        (Check.findings file text).map Finding.message? = messages.map some) ∧
      ∀ finding ∈ Check.findings file text,
        ∀ (bracket : Text) (openedAt : Option Position)
            (expected : Option Text),
          finding.detail = .balance .mismatched bracket openedAt expected →
            openedAt.isSome = true ∧ expected.isSome = true := by
  obtain ⟨messages, _, listed⟩ :=
    exists_messages fun finding member => Check.isSome_message?_of_mem member
  exact ⟨check_eq_ok file text, ⟨messages, listed⟩,
    fun finding member _ _ _ isMismatch =>
    isSome_of_mismatched member isMismatch⟩

end OutlineLint.Guarded
