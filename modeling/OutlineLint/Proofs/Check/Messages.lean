import OutlineLint.Check
import OutlineLint.Proofs.Duplicate.Sources
import OutlineLint.Proofs.Resolution.Unresolved

/-!
# Findings with messages

A finding about a text comes from its brackets, from the duplicates of a
section, or from a reference.

Every such finding has a message.  Of all findings only a mismatch could lack
one, and the mismatches that are found name their opening brackets.
-/

namespace OutlineLint

theorem BracketProblem.isSome_message?
    (file : Text) (problem : BracketProblem) :
    (problem.finding file).message?.isSome = true := by
  cases problem <;> rfl

theorem Duplicate.Repetition.isSome_message?
    (file scope : Text) (repetition : Repetition) :
    (repetition.finding file scope).message?.isSome = true :=
  rfl

theorem Duplicate.isSome_message?_of_mem
    {file : Text} {outline : Outline} {finding : Finding}
    (member : finding ∈ findings file outline) :
    finding.message?.isSome = true := by
  obtain ⟨entry, _, inSection⟩ := List.mem_flatMap.mp member
  obtain ⟨scope, repetition, _, rfl⟩ :=
    exists_reportedIn_of_mem_sectionFindings inSection
  exact repetition.isSome_message? file scope

theorem Resolution.isSome_message?_of_mem
    {outline : Outline} {finding : Finding}
    (member : finding ∈ findings outline) :
    finding.message?.isSome = true := by
  obtain ⟨reference, _, found⟩ := List.mem_filterMap.mp member
  rw [finding?_eq_some_iff] at found
  cases found <;> rfl

namespace Check

theorem findings_of_unbalanced
    {file text : Text} {finding : Finding}
    (found : Balance.finding? file text = some finding) :
    findings file text = [finding] := by
  rw [findings, examine, found]

theorem findings_of_balanced
    {file text : Text} (balanced : Balance.finding? file text = none) :
    findings file text =
      Duplicate.findings file (Outline.parse file text)
        ++ Resolution.findings (Outline.parse file text) := by
  rw [findings, examine, balanced]

theorem mem_findings_cases
    {file text : Text} {finding : Finding}
    (member : finding ∈ findings file text) :
    Balance.finding? file text = some finding ∨
      finding ∈ Duplicate.findings file (Outline.parse file text) ∨
        finding ∈ Resolution.findings (Outline.parse file text) := by
  cases search : Balance.finding? file text with
  | some bracketFinding =>
      rw [findings_of_unbalanced search, List.mem_singleton] at member
      exact Or.inl (congrArg some member.symm)
  | none =>
      rw [findings_of_balanced search, List.mem_append] at member
      exact Or.inr member

theorem isSome_message?_of_mem
    {file text : Text} {finding : Finding}
    (member : finding ∈ findings file text) :
    finding.message?.isSome = true := by
  rcases mem_findings_cases member with bracket | duplicate | unresolved
  · obtain ⟨problem, _, rfl⟩ := Option.map_eq_some_iff.mp bracket
    exact problem.isSome_message? file
  · exact Duplicate.isSome_message?_of_mem duplicate
  · exact Resolution.isSome_message?_of_mem unresolved

end Check

/-- Elements that all have results have the list of their results. -/
theorem mapM_eq_some
    {Element Result : Type} {result? : Element → Option Result}
    {elements : List Element}
    {results : List Result}
    (complete : elements.map result? = results.map some) :
    elements.mapM result? = some results := by
  induction elements generalizing results with
  | nil =>
      cases List.map_eq_nil_iff.mp complete.symm
      rfl
  | cons element rest ih =>
      obtain ⟨result, others, rfl, isResult, areOthers⟩ :=
        List.map_eq_cons_iff.mp complete.symm
      rw [List.mapM_cons, ← isResult, ih areOthers.symm]
      rfl

/-- Only elements that all have results have a list of results. -/
theorem map_eq_of_mapM_eq_some
    {Element Result : Type} {result? : Element → Option Result}
    {elements : List Element} {results : List Result}
    (complete : elements.mapM result? = some results) :
    elements.map result? = results.map some := by
  induction elements generalizing results with
  | nil =>
      cases complete
      rfl
  | cons element rest ih =>
      rw [List.mapM_cons, Option.bind_eq_bind, Option.bind_eq_some_iff]
        at complete
      obtain ⟨result, isResult, complete⟩ := complete
      rw [Option.bind_eq_bind, Option.bind_eq_some_iff] at complete
      obtain ⟨others, areOthers, same⟩ := complete
      cases same
      rw [List.map_cons, isResult, ih areOthers, List.map_cons]

/-- Findings that have messages have a list of messages. -/
theorem exists_messages
    {found : List Finding}
    (complete : ∀ finding ∈ found, finding.message?.isSome = true) :
    ∃ messages : List Text,
      found.mapM Finding.message? = some messages ∧
        found.map Finding.message? = messages.map some := by
  have listed :
      ∃ messages : List Text,
          found.map Finding.message? = messages.map some := by
    induction found with
    | nil => exact ⟨[], rfl⟩
    | cons finding rest ih =>
        obtain ⟨message, hasMessage⟩ :=
          Option.isSome_iff_exists.mp (complete finding List.mem_cons_self)
        obtain ⟨messages, others⟩ := ih fun other member =>
          complete other (List.mem_cons_of_mem _ member)
        exact ⟨message :: messages,
          by rw [List.map_cons, hasMessage, others, List.map_cons]⟩
  obtain ⟨messages, isList⟩ := listed
  exact ⟨messages, mapM_eq_some isList, isList⟩

end OutlineLint
