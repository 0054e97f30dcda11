import OutlineLint.Proofs.Check.Messages
import OutlineLint.Proofs.Duplicate.Justified
import OutlineLint.Proofs.Reference.Columns
import OutlineLint.Proofs.Text.Decimal

/-!
# Messages of their own

Every finding about a text is told once.  The message of a duplicate begins with
the row, followed by a space, and the message of an unresolved reference with
the row and the column between colons.  No two duplicates have the same row and
no two references the same place, so no two findings have the same message.

Together with what a duplicate says of its lines this gives all that a reader of
the messages may rely on.
-/

namespace OutlineLint

/-! ## How a message begins -/

theorem Duplicate.exists_message_of_mem
    {file : Text} {outline : Outline} {finding : Finding}
    (member : finding ∈ findings file outline) :
    ∃ rest : Text,
      finding.message? =
        some (file ++ ':' ::
          (Text.ofInt finding.position.row ++ ' ' :: rest)) := by
  obtain ⟨opened, _, inSection⟩ := List.mem_flatMap.mp member
  obtain ⟨scope, repetition, _, rfl⟩ :=
    exists_reportedIn_of_mem_sectionFindings inSection
  have begins :
      " Duplicate entry in section '".toList =
          ' ' :: "Duplicate entry in section '".toList :=
        rfl
  refine ⟨"Duplicate entry in section '".toList ++ (scope ++ ("': \"".toList
    ++ (repetition.item.text ++ ("\" (first at ".toList
      ++ (scope ++ ':' :: (Text.ofInt repetition.firstRow ++ [')'])))))), ?_⟩
  simp only [Repetition.finding, Finding.message?, Finding.duplicateMessage,
    begins, List.append_assoc, List.cons_append]

theorem Finding.exists_message?_unresolved
    (file : Text) (position : Position) (fault : ReferenceFault)
    (reference : Text) (first second : Option Text) :
    ∃ rest : Text,
      message? ⟨file, position, .unresolved fault reference first second⟩ =
        some (file ++ ':' :: (Text.ofInt position.row
          ++ ':' :: (Text.ofInt position.col ++ ' ' :: rest))) := by
  have unknown :
      " Unknown token prefix '[".toList =
          ' ' :: "Unknown token prefix '[".toList :=
        rfl
  have unresolved :
      " Unresolved token '[".toList = ' ' :: "Unresolved token '[".toList :=
    rfl
  cases fault <;>
    simp only [message?, referenceMessage, shownPlace, Position.shownIn,
      unknown, unresolved, List.append_assoc, List.cons_append] <;>
    exact ⟨_, rfl⟩

theorem Resolution.exists_message_of_mem
    {file text : Text} {finding : Finding}
    (member : finding ∈ findings (Outline.parse file text)) :
    ∃ rest : Text,
      finding.message? =
        some (file ++ ':' :: (Text.ofInt finding.position.row
          ++ ':' :: (Text.ofInt finding.position.col ++ ' ' :: rest))) := by
  obtain ⟨reference, isReference, found⟩ := List.mem_filterMap.mp member
  have inFile : reference.file = file :=
    Outline.file_of_mem_references isReference
  rw [finding?_eq_some_iff] at found
  cases found <;>
    rw [inFile] <;>
    exact Finding.exists_message?_unresolved file _ _ _ _ _

/-! ## Findings in places of their own -/

theorem Duplicate.pairwise_messages (file text : Text) :
    (findings file (Outline.parse file text)).Pairwise fun first second =>
      first.message? ≠ second.message? := by
  have rows := nodup_rows_findings file text
  rw [List.Nodup, List.pairwise_map] at rows
  apply rows.imp_of_mem
  intro first second isFirst isSecond differ same
  obtain ⟨rest, message⟩ := exists_message_of_mem isFirst
  obtain ⟨otherRest, otherMessage⟩ := exists_message_of_mem isSecond
  rw [message, otherMessage, Option.some.injEq] at same
  have afterFile := (List.cons.inj (List.append_cancel_left same)).2
  exact differ (Text.ofInt_append_cons_inj rfl rfl afterFile).1

/-- The findings about references come in the order of their places. -/
theorem Resolution.pairwise_findings (file text : Text) :
    (findings (Outline.parse file text)).Pairwise fun first second =>
      first.position.Precedes second.position := by
  apply (Outline.pairwise_references file text).filterMap
  intro reference other precedes finding found otherFinding otherFound
  rw [((finding?_eq_some_iff _ _ _).mp found).position_eq,
    ((finding?_eq_some_iff _ _ _).mp otherFound).position_eq]
  exact precedes

theorem Resolution.pairwise_messages (file text : Text) :
    (findings (Outline.parse file text)).Pairwise fun first second =>
      first.message? ≠ second.message? := by
  apply (pairwise_findings file text).imp_of_mem
  intro first second isFirst isSecond precedes same
  obtain ⟨rest, message⟩ := exists_message_of_mem isFirst
  obtain ⟨otherRest, otherMessage⟩ := exists_message_of_mem isSecond
  rw [message, otherMessage, Option.some.injEq] at same
  have afterFile := (List.cons.inj (List.append_cancel_left same)).2
  obtain ⟨sameRow, _, afterRow⟩ := Text.ofInt_append_cons_inj rfl rfl afterFile
  have sameCol := (Text.ofInt_append_cons_inj rfl rfl afterRow).1
  unfold Position.Precedes at precedes
  omega

/-- After the row a duplicate has a space and a reference a colon. -/
theorem Duplicate.message?_ne_of_mem
    {file text : Text} {finding other : Finding}
    (isDuplicate : finding ∈ findings file (Outline.parse file text))
    (isUnresolved : other ∈ Resolution.findings (Outline.parse file text)) :
    finding.message? ≠ other.message? := by
  intro same
  obtain ⟨rest, message⟩ := exists_message_of_mem isDuplicate
  obtain ⟨otherRest, otherMessage⟩ :=
    Resolution.exists_message_of_mem isUnresolved
  rw [message, otherMessage, Option.some.injEq] at same
  have afterFile := (List.cons.inj (List.append_cancel_left same)).2
  have separators := (Text.ofInt_append_cons_inj rfl rfl afterFile).2.1
  revert separators
  decide

/-! ## All findings of a text -/

theorem Check.nodup_messages (file text : Text) :
    ((findings file text).map Finding.message?).Nodup := by
  cases found : Balance.finding? file text with
  | some finding =>
      rw [findings_of_unbalanced found]
      exact List.nodup_singleton _
  | none =>
      rw [findings_of_balanced found, List.Nodup, List.pairwise_map,
        List.pairwise_append]
      exact ⟨Duplicate.pairwise_messages file text,
        Resolution.pairwise_messages file text,
        fun _ isDuplicate _ => Duplicate.message?_ne_of_mem isDuplicate⟩

/--
Every duplicate that is found in a text repeats an earlier line of it, no two of
them stand in one row, and all findings about a text have messages of their own.
-/
theorem Check.duplicates_told_once (file text : Text) :
    (∀ finding ∈ Duplicate.findings file (Outline.parse file text),
        finding.RepeatsLine text.lines) ∧
      ((Duplicate.findings file (Outline.parse file text)).map
        (·.position.row)).Nodup ∧
      ∃ messages : List Text,
        (findings file text).map Finding.message? = messages.map some ∧
          messages.Nodup := by
  refine ⟨fun finding => Duplicate.repeatsLine_of_mem_findings,
    Duplicate.nodup_rows_findings file text, ?_⟩
  obtain ⟨messages, _, listed⟩ :=
    exists_messages fun finding member => isSome_message?_of_mem member
  have distinct := nodup_messages file text
  rw [listed] at distinct
  exact ⟨messages, listed, distinct.of_map some⟩

/-- Its first section is opened again in row 5, and row 6 repeats row 2. -/
def Check.reopenedDrinks : Text :=
  "tea\n    hot, milk\nsoup\n    [soup.iced]\ntea\n    HOT, milk\t".toList

theorem Check.told_once_reopenedDrinks :
    Finding.mk [] ⟨6, 5⟩ (.duplicate "tea".toList "HOT, milk".toList 2) ∈
        Duplicate.findings [] (Outline.parse [] reopenedDrinks) ∧
      Finding.RepeatsLine reopenedDrinks.lines
        ⟨[], ⟨6, 5⟩, .duplicate "tea".toList "HOT, milk".toList 2⟩ := by
  have found :
      Duplicate.findings [] (Outline.parse [] reopenedDrinks) =
        [⟨[], ⟨6, 5⟩, .duplicate "tea".toList "HOT, milk".toList 2⟩] := by
    decide +kernel
  have member :
      Finding.mk [] ⟨6, 5⟩ (.duplicate "tea".toList "HOT, milk".toList 2) ∈
        Duplicate.findings [] (Outline.parse [] reopenedDrinks) := by
    rw [found]
    exact List.mem_singleton_self _
  exact ⟨member, (duplicates_told_once [] reopenedDrinks).1 _ member⟩

end OutlineLint
