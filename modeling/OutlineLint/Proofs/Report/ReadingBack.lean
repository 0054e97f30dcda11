import OutlineLint.Proofs.Json.Writing
import OutlineLint.Proofs.Session.Channels

/-!
# Reading a report back

The text of a report is a JSON document.  It stands for one value, and this
value has all that was reported: the tool, whether all files are in order, and
an entry for each file with its path, its findings and its failure.  Paths and
messages may hold any characters, and rows and columns any integers.

So reports with different entries differ as texts.
-/

namespace OutlineLint.Report

/--
The entry has the path, the findings with their messages, and
the failure of the verdict.
-/
inductive EntryOf : Verdict → Json → Prop where
  | entry {verdict : Verdict} {messages : List Text}
      (complete : verdict.findings.map Finding.message? = messages.map some) :
      EntryOf verdict
        (Account.fileEntry verdict.path verdict.ok
          (List.zipWith Account.findingEntry verdict.findings messages)
          (verdict.failure.elim .null .text))

/-- The value of a report on files that have these entries. -/
def valueOf (valid : Bool) (entries : List Json) : Json :=
  .object
    [("tool".toList, .text "cfglint".toList),
      ("valid".toList, .boolean valid),
      ("files".toList, .list entries)]

/-- The text is the report on the verdicts, and it can be read back. -/
structure ReadsBack
    (verdicts : List Verdict) (entries : List Json) (text : Text) :
    Prop where
  listed : List.Forall₂ EntryOf verdicts entries
  written : text? verdicts = some text
  document : ∀ value, Json.Document value text ↔
    value = valueOf (verdicts.all (·.ok)) entries
  decoded : Json.decode? text = some (valueOf (verdicts.all (·.ok)) entries)
  differs : ∀ (others : List Verdict) (otherEntries : List Json),
    List.Forall₂ EntryOf others otherEntries → otherEntries ≠ entries →
      text? others ≠ some text

theorem EntryOf.verdictEntry?_eq
    {verdict : Verdict} {entry : Json} (isEntry : EntryOf verdict entry) :
    verdictEntry? verdict = some entry := by
  cases isEntry with
  | entry complete =>
      rw [Report.verdictEntry?,
        mapM_eq_some (Account.findingEntries_eq complete)]
      rfl

theorem exists_entries
    {verdicts : List Verdict}
    (complete : ∀ verdict ∈ verdicts, ∀ finding ∈ verdict.findings,
      finding.message?.isSome = true) :
    ∃ entries, List.Forall₂ EntryOf verdicts entries := by
  induction verdicts with
  | nil => exact ⟨[], .nil⟩
  | cons verdict rest ih =>
      obtain ⟨messages, -, listed⟩ :=
        exists_messages (complete verdict List.mem_cons_self)
      obtain ⟨entries, areEntries⟩ := ih fun other member =>
        complete other (List.mem_cons_of_mem _ member)
      exact ⟨_ :: entries, .cons (.entry listed) areEntries⟩

theorem text?_of_entries
    {verdicts : List Verdict} {entries : List Json}
    (areEntries : List.Forall₂ EntryOf verdicts entries) :
    text? verdicts =
      some (Json.write 0 (valueOf (verdicts.all (·.ok)) entries)) := by
  have listed : verdicts.map verdictEntry? = entries.map some := by
    induction areEntries with
    | nil => rfl
    | cons isEntry _ ih =>
        rw [List.map_cons, isEntry.verdictEntry?_eq, ih, List.map_cons]
  rw [text?, ofVerdicts?, mapM_eq_some listed]
  rfl

theorem valueOf_injective
    {valid otherValid : Bool} {entries otherEntries : List Json}
    (same : valueOf valid entries = valueOf otherValid otherEntries) :
    entries = otherEntries := by
  simp only [valueOf, Json.object.injEq, List.cons.injEq, Prod.mk.injEq,
    Json.list.injEq] at same
  exact same.2.2.1.2

/--
Verdicts with characters that are escaped and others that are
not, and with odd positions.
-/
def awkward : List Verdict :=
  [⟨['"', '\\', '\x01', '\u2028', '😀'],
      [⟨"menu".toList, ⟨-3, 0⟩,
        .duplicate "drinks".toList "tea\n".toList (-20)⟩],
      none⟩,
    ⟨[], [], some "\tgone".toList⟩]

end OutlineLint.Report
