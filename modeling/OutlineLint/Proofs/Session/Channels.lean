import OutlineLint.Proofs.FileTree.Writing
import OutlineLint.Proofs.Report.Dump
import OutlineLint.Proofs.Session.Summaries

/-!
# Agreement of the output channels

What a run found out about a file leaves it in three ways: as a summary on one
of the output channels, in the exit code, and as an entry of the report.  The
three are computed apart from one another.  For a run that exits there is one
account of each file in which they agree, and nothing but these accounts is said
on the channels, except for the lines of the log.

The report is read back from the tree that the run leaves behind.
-/

namespace OutlineLint

/-! ## Accounts of files -/

/--
The verdict on a file, the summary that is printed, and the entry in the report.
-/
structure Account where
  verdict : Verdict
  summary : Text
  entry : Json

namespace Account

def findingEntry (finding : Finding) (message : Text) : Json :=
  .object
    [("kind".toList, .text finding.detail.kind),
      ("row".toList, .integer finding.position.row),
      ("col".toList, .integer finding.position.col),
      ("message".toList, .text message)]

def fileEntry
    (path : Text) (ok : Bool) (errors : List Json) (failure : Json) : Json :=
  .object
    [("path".toList, .text path),
      ("ok".toList, .boolean ok),
      ("errors".toList, .list errors),
      ("failure".toList, failure)]

/-- The summary and the entry say of the file what the verdict says. -/
inductive Agrees : Account → Prop where
  | clean (path : Text) :
      Agrees ⟨⟨path, [], none⟩, "OK: ".toList ++ path,
        fileEntry path true [] .null⟩
  | failed (path failure : Text) :
      Agrees ⟨⟨path, [], some failure⟩, failure,
        fileEntry path false [] (.text failure)⟩
  /-- The messages that are printed below one another are those of the entry. -/
  | faulty (path : Text) {findings : List Finding} {messages : List Text}
      (something : findings ≠ [])
      (complete : findings.map Finding.message? = messages.map some) :
      Agrees
        ⟨⟨path, findings, none⟩,
          "Errors in ".toList ++ path ++ [':']
            ++ messages.flatMap (fun message => "\n  - ".toList ++ message),
          fileEntry path false
            (List.zipWith findingEntry findings messages) .null⟩

/-- What is said about the file of the account. -/
def utterance (account : Account) : Utterance :=
  Session.announce account.verdict account.summary

theorem findingEntries_eq
    {findings : List Finding} {messages : List Text}
    (complete : findings.map Finding.message? = messages.map some) :
    findings.map Report.findingEntry? =
      (List.zipWith findingEntry findings messages).map some := by
  induction findings generalizing messages with
  | nil => rfl
  | cons finding rest ih =>
      obtain ⟨message, others, rfl, isMessage, areOthers⟩ :=
        List.map_eq_cons_iff.mp complete.symm
      rw [List.map_cons, Report.findingEntry?, ← isMessage, ih areOthers.symm]
      rfl

theorem Agrees.summary?_eq {account : Account} (agrees : account.Agrees) :
    account.verdict.summary? = some account.summary := by
  cases agrees with
  | clean path => rfl
  | failed path failure => rfl
  | faulty path something complete =>
      exact Verdict.summary?_of_findings something (mapM_eq_some complete) path

theorem Agrees.verdictEntry?_eq {account : Account} (agrees : account.Agrees) :
    Report.verdictEntry? account.verdict = some account.entry := by
  cases agrees with
  | clean path => rfl
  | failed path failure => rfl
  | faulty path something complete =>
      rw [Report.verdictEntry?, mapM_eq_some (findingEntries_eq complete),
        Verdict.not_ok_of_ne_nil something]
      rfl

end Account

/-! ## Verdicts -/

namespace Session

/--
A verdict is on a file that cannot be read, or has the findings about a text.
-/
theorem verdict_cases
    {session : Session} {word : Bytes} {verdict : Verdict}
    (inspected : (session.inspect word).verdict = .ok verdict) :
    (∃ failure : Text,
        verdict = ⟨(session.directory.pathOf word).shown, [], some failure⟩) ∨
      ∃ text : Text,
        verdict =
          ⟨(session.directory.pathOf word).shown,
            Check.findings (session.directory.pathOf word).shown text,
            none⟩ := by
  rw [inspect] at inspected
  split at inspected
  · cases inspected
  · unfold inspectEntry at inspected
    split at inspected
    · cases inspected
      exact Or.inl ⟨_, rfl⟩
    · cases inspected
      exact Or.inl ⟨_, rfl⟩
    · cases inspected
    · cases inspected
      exact Or.inl ⟨_, rfl⟩
    · next contents _ =>
        rw [inspectContents] at inspected
        split at inspected
        · cases inspected
          exact Or.inl ⟨_, rfl⟩
        · next text _ =>
            cases inspected
            exact Or.inr ⟨text, rfl⟩

theorem exists_account
    {session : Session} {word : Bytes} {verdict : Verdict}
    (inspected : (session.inspect word).verdict = .ok verdict) :
    ∃ account : Account, account.verdict = verdict ∧ account.Agrees := by
  rcases verdict_cases inspected with ⟨failure, rfl⟩ | ⟨text, rfl⟩
  · exact ⟨_, rfl, .failed _ failure⟩
  · by_cases nothing :
      Check.findings (session.directory.pathOf word).shown text = []
    · rw [nothing]
      exact ⟨_, rfl, .clean _⟩
    · obtain ⟨messages, _, listed⟩ :=
        exists_messages fun finding member =>
          Check.isSome_message?_of_mem member
      exact ⟨_, rfl, .faulty _ nothing listed⟩

theorem path_of_inspect
    {session : Session} {word : Bytes} {verdict : Verdict}
    (inspected : (session.inspect word).verdict = .ok verdict) :
    verdict.path = (session.directory.pathOf word).shown := by
  rcases verdict_cases inspected with ⟨failure, rfl⟩ | ⟨text, rfl⟩ <;> rfl

/--
Files that all have verdicts have accounts, and these are
what is said about them.
-/
theorem exists_accounts
    {session : Session} {files : List Bytes} {verdicts : List Verdict}
    (linted : (session.lint files).verdicts = .ok verdicts) :
    ∃ accounts : List Account,
      accounts.map Account.verdict = verdicts ∧
        session.summaries files = accounts.map Account.utterance ∧
          (∀ account ∈ accounts, account.Agrees) ∧
            List.Forall₂
              (fun word account => (session.inspect word).verdict =
                .ok account.verdict)
              files accounts := by
  induction files generalizing verdicts with
  | nil =>
      cases linted
      exact ⟨[], rfl, rfl, nofun, .nil⟩
  | cons word rest ih =>
      cases judged : session.judge word with
      | error fault =>
          rw [(lint_cons_refused judged rest).1] at linted
          cases linted
      | ok judgement =>
          obtain ⟨verdict, said⟩ := judgement
          obtain ⟨summary, inspected, isSummary, rfl⟩ := judge_eq_ok judged
          obtain ⟨account, rfl, agrees⟩ := exists_account inspected
          have sameSummary := agrees.summary?_eq.symm.trans isSummary
          rw [Option.some.injEq] at sameSummary
          subst sameSummary
          have ⟨verdictsEq, summariesEq⟩ := lint_cons_judged judged rest
          rw [verdictsEq] at linted
          cases later : (session.lint rest).verdicts with
          | error fault =>
              rw [later] at linted
              cases linted
          | ok others =>
              rw [later] at linted
              cases linted
              obtain ⟨accounts, rfl, saidLater, agreeLater, inspectedLater⟩ :=
                ih later
              refine ⟨account :: accounts, rfl, ?_, ?_,
                .cons inspected inspectedLater⟩
              · rw [summariesEq, saidLater]
                rfl
              · exact List.forall_mem_cons.mpr ⟨agrees, agreeLater⟩

/-- The verdicts are on the files in their order. -/
theorem paths_of_lint
    {session : Session} {files : List Bytes} {verdicts : List Verdict}
    (linted : (session.lint files).verdicts = .ok verdicts) :
    verdicts.map Verdict.path =
      (files.map session.directory.pathOf).map Bytes.shown := by
  obtain ⟨accounts, rfl, -, -, inspected⟩ := exists_accounts linted
  clear linted
  induction inspected with
  | nil => rfl
  | cons first _ ih =>
      rw [List.map_cons, List.map_cons, path_of_inspect first, ih,
        List.map_cons, List.map_cons]

end Session

/-! ## Channels -/

namespace Run

/-- The run without the lines of the log. -/
def withoutLog (run : Run) : Run :=
  { run with utterances := run.utterances.filter Utterance.isSummary }

theorem output_withoutLog (run : Run) : run.withoutLog.output = run.output := by
  rw [output, output, withoutLog]
  induction run.utterances with
  | nil => rfl
  | cons utterance rest ih =>
      cases utterance with
      | note line => exact ih
      | output line | complaint line => exact congrArg (_ ++ ·) ih

end Run

namespace Account

/-- What is printed about the files of which `shown` holds, in their order. -/
def printed (accounts : List Account) (shown : Account → Bool) : Text :=
  (accounts.filter shown).flatMap fun account => account.summary ++ ['\n']

theorem printed_eq_flatMap
    {shown : Account → Bool} {said : Account → Text}
    (saysIf : ∀ account : Account,
      said account = if shown account then account.summary ++ ['\n'] else [])
    (accounts : List Account) :
    accounts.flatMap said = printed accounts shown := by
  induction accounts with
  | nil => rfl
  | cons account rest ih =>
      rw [List.flatMap_cons, ih, saysIf, printed, printed]
      by_cases isShown : shown account = true
      · rw [if_pos isShown, List.filter_cons_of_pos isShown, List.flatMap_cons]
      · rw [if_neg isShown, List.filter_cons_of_neg isShown, List.nil_append]

theorem output_eq_printed
    {run : Run} {accounts : List Account}
    (said : run.withoutLog.utterances = accounts.map utterance) :
    run.output = printed accounts (·.verdict.ok) := by
  rw [← run.output_withoutLog, Run.output, said, List.flatMap_map]
  apply printed_eq_flatMap
  intro account
  rw [utterance, Session.announce]
  split <;> rfl

theorem errorOutput_eq_printed
    {run : Run} {accounts : List Account}
    (said : run.withoutLog.utterances = accounts.map utterance) (clock : Text) :
    run.withoutLog.errorOutput clock = printed accounts (!·.verdict.ok) := by
  rw [Run.errorOutput, said, List.flatMap_map]
  apply printed_eq_flatMap
  intro account
  rw [utterance, Session.announce]
  cases account.verdict.ok <;> rfl

end Account

/-! ## The report -/

namespace Session

theorem decide_exitCode (verdicts : List Verdict) :
    decide (exitCode verdicts = 0) = verdicts.all (·.ok) := by
  rw [exitCode]
  cases verdicts.all (·.ok) <;> rfl

theorem exitCode_eq_zero_iff (verdicts : List Verdict) :
    exitCode verdicts = 0 ↔ ∀ verdict ∈ verdicts, verdict.ok = true := by
  rw [← List.all_eq_true, ← decide_exitCode, decide_eq_true_iff]

/-- A report that has been written is where its path leads. -/
theorem status_of_writeText
    {session : Session} {path : Bytes} {text : Text}
    (finished : (session.writeText path text).fault = none) :
    (session.writeText path text).tree.status session.directory
        (PathName.ofPath path) =
      .ok (.file (Utf8.encode text)) := by
  simp only [writeText] at finished ⊢
  split at finished
  · cases finished
  · next noNull =>
      rw [if_neg noNull]
      split at finished
      · cases finished
      · split at finished
        · cases finished
        · next noNullName =>
            rw [if_neg noNullName]
            split at finished
            · cases finished
            · next written => exact FileTree.status_of_writeFile written

/-- A report that has been written is the whole report. -/
theorem status_of_writeReport
    {session : Session} {path : Bytes} {files : List Bytes}
    {verdicts : List Verdict}
    (finished : (session.writeReport path files verdicts).fault = none) :
    ∃ text : Text,
      Report.text? verdicts = some text ∧
        (session.writeReport path files verdicts).tree.status session.directory
            (PathName.ofPath path) =
          .ok (.file (Utf8.encode text)) := by
  rw [writeReport] at finished ⊢
  split at finished
  · cases finished
  · next dump isDump =>
      rw [Option.or_eq_none_iff] at finished
      cases Report.dump?_dumped isDump with
      | whole texts isText =>
          exact ⟨_, isText, status_of_writeText finished.1⟩
      | upTo => cases finished.2

/--
A run that exits has left its report in the tree, and has
added nothing but log lines.
-/
theorem finish_exits
    {session : Session} {options : Options} {said : List Utterance}
    {verdicts : List Verdict} {code : Nat}
    (exits : (session.finish options said verdicts).ending = .exit code) :
    code = exitCode verdicts ∧
      (session.finish options said verdicts).utterances.filter
          Utterance.isSummary =
        said.filter Utterance.isSummary ∧
      ∀ path : Bytes, path ≠ [] → options.report = some path →
        ∃ text : Text,
          Report.text? verdicts = some text ∧
            (session.finish options said verdicts).session.tree.status
              session.directory
                (PathName.ofPath path) =
              .ok (.file (Utf8.encode text)) := by
  unfold finish at exits ⊢
  split at exits
  · next noReport =>
      cases exits
      refine ⟨rfl, rfl, ?_⟩
      intro path _ isReport
      cases noReport.symm.trans isReport
  · next emptyReport =>
      cases exits
      refine ⟨rfl, rfl, ?_⟩
      intro path nonempty isReport
      cases emptyReport.symm.trans isReport
      exact absurd rfl nonempty
  · next written _ isReport =>
      dsimp only at exits ⊢
      split at exits
      · cases exits
      · next finished =>
          cases exits
          refine ⟨rfl, ?_, ?_⟩
          · rw [List.filter_append, filter_notes, List.append_nil]
          · intro path _ same
            cases isReport.symm.trans same
            exact status_of_writeReport finished

end Session

namespace Account

/-- The report on the files of the accounts. -/
def report (accounts : List Account) (valid : Bool) : Json :=
  .object
    [("tool".toList, .text "cfglint".toList),
      ("valid".toList, .boolean valid),
      ("files".toList, .list (accounts.map entry))]

theorem text?_eq
    {accounts : List Account} (agree : ∀ account ∈ accounts, account.Agrees) :
    Report.text? (accounts.map verdict) =
      some
        (Json.write 0
          (report accounts (Session.exitCode (accounts.map verdict) = 0))) := by
  have entriesEq :
      (accounts.map verdict).map Report.verdictEntry? =
        (accounts.map entry).map some := by
    rw [List.map_map, List.map_map]
    exact List.map_congr_left fun account member =>
      (agree account member).verdictEntry?_eq
  rw [Report.text?, Report.ofVerdicts?, mapM_eq_some entriesEq,
    Session.decide_exitCode]
  rfl

end Account

/-! ## A whole run -/

namespace Session

/--
All that a run over files says and leaves comes from one account of each file.
-/
structure ChannelsAgree
    (session : Session) (options : Options) (run : Run) (code : Nat)
    (accounts : List Account) : Prop where
  files :
    List.Forall₂ (fun word account => (session.inspect word).verdict =
        .ok account.verdict)
      options.files accounts
  agree : ∀ account ∈ accounts, account.Agrees
  output : run.output = Account.printed accounts (·.verdict.ok)
  errorOutput : ∀ clock : Text,
    run.withoutLog.errorOutput clock = Account.printed accounts (!·.verdict.ok)
  exit : code = 0 ↔ ∀ account ∈ accounts, account.verdict.ok = true
  /-- The report is written in the tree that the run leaves. -/
  report : ∀ path : Bytes, path ≠ [] → options.report = some path →
    run.session.tree.status session.directory (PathName.ofPath path) =
      .ok (.file
        (Utf8.encode (Json.write 0 (Account.report accounts (code = 0)))))

theorem run_channelsAgree
    (session : Session) {words : List Bytes} {options : Options} {code : Nat}
    (asked : Request.ofWords words = .lint options)
    (exits : (session.run words).ending = .exit code) :
    ∃ accounts : List Account,
      session.ChannelsAgree options (session.run words) code accounts := by
  have performed : session.run words = session.perform options := by
    rw [run, asked]
  rw [performed] at exits ⊢
  rw [perform] at exits ⊢
  cases linted :
    (lint
      { session with verbose := options.verbose } options.files).verdicts with
  | error fault =>
      simp only [linted] at exits
      cases exits
  | ok verdicts =>
      simp only [linted] at exits ⊢
      obtain ⟨accounts, rfl, said, agree, inspected⟩ := exists_accounts linted
      obtain ⟨rfl, summaries, written⟩ := finish_exits exits
      have saidAccounts := summaries.trans said
      have allOk :
          exitCode (accounts.map Account.verdict) = 0 ↔
            ∀ account ∈ accounts, account.verdict.ok = true := by
        rw [exitCode_eq_zero_iff, List.forall_mem_map]
      refine
        ⟨accounts, inspected, agree, Account.output_eq_printed saidAccounts,
          Account.errorOutput_eq_printed saidAccounts, allOk, ?_⟩
      intro path nonempty isReport
      obtain ⟨text, isText, leads⟩ := written path nonempty isReport
      rw [Account.text?_eq agree, Option.some.injEq] at isText
      rw [isText]
      exact leads

def twiceWord : Bytes :=
  Utf8.encode "twice".toList

/-- A path through a directory that is not there yet. -/
def reportWord : Bytes :=
  Utf8.encode "out/report.json".toList

/--
The arguments of a run over a clean, a missing and a faulty file,
the first of them twice.
-/
def mixedWords : List Bytes :=
  [menuWord, goneWord, twiceWord, menuWord, Flag.report.word, reportWord]

/-- What these arguments ask for. -/
def mixedOptions : Options :=
  ⟨[menuWord, goneWord, twiceWord, menuWord], some reportWord, false⟩

/-- A directory with a clean and a faulty file. -/
def mixed : Session :=
  { menu with
    tree := menu.tree.plant (work ++ [twiceWord])
      (.file (Utf8.encode "drinks\n  tea, mint\n  Tea, mint\n".toList)) }

theorem mixed_channelsAgree :
    Request.ofWords mixedWords = .lint mixedOptions ∧
      (mixed.run mixedWords).ending = .exit 1 ∧
        ∃ accounts : List Account,
          mixed.ChannelsAgree mixedOptions
            (mixed.run mixedWords) 1 accounts := by
  have asked : Request.ofWords mixedWords = .lint mixedOptions := by
    decide +kernel
  have exits : (mixed.run mixedWords).ending = .exit 1 := by
    decide +kernel
  exact ⟨asked, exits, run_channelsAgree mixed asked exits⟩

end Session

end OutlineLint
