import Mathlib.Data.List.Forall2
import OutlineLint.Proofs.Check.Messages
import OutlineLint.Proofs.FileTree.Refusal
import OutlineLint.Proofs.Text.Letters
import OutlineLint.Session

/-!
# Summaries of a run

A run without a report says one summary about each file, in the order of the
command line, and then exits.  What a file is and whether it can be read decides
the summary and never stops the run, and neither does a file that is missing.

Two things stop the run, at the word that names the file: a path that is too
long, and a path with stray bytes if there is nothing to complain of in the file
and the output channel is strict.  The files before that word have their
summaries, the word and all later ones have none.
-/

namespace OutlineLint

/-! ## What is said about one file -/

/--
A word names a path that is too long if the whole is, or a name that directories
lead to.
-/
theorem Session.lookUp_eq_nameTooLong_iff
    (session : Session) (plain : Route.upward ∉ session.directory)
    (word : Bytes) :
    session.lookUp word = .error .nameTooLong ↔
      FileTree.pathLimit < (session.directory.pathOf word).length ∨
        session.tree.ReachesLongName []
          (Route.resolve session.directory word) :=
  FileTree.status_ofRoute_eq_nameTooLong_iff session.tree session.directory
    (Route.upward_not_mem_resolve plain word)

theorem Session.inspect_eq
    (session : Session) {word : Bytes} (noNull : Ascii.null ∉ word) :
    session.inspect word =
      inspectEntry (session.directory.pathOf word) (session.lookUp word) := by
  refine if_neg ?_
  rw [holdsNull, List.contains_iff_mem]
  exact noNull

/-- The output channel takes a line with the path. -/
def Session.Takes (session : Session) (path : Bytes) : Prop :=
  session.strictOutput = true → path.IsText

/-- The word names a file with this text, in which nothing is found. -/
structure Session.IsClean (session : Session) (word : Bytes) (text : Text) :
    Prop where
  isFile : session.lookUp word = .ok (.file (Utf8.encode text))
  nothing : Check.findings (session.directory.pathOf word).shown text = []

/-- The summary of the file that a word names. -/
inductive Summarises (session : Session) (word : Bytes) : Utterance → Prop where
  | clean {text : Text} (isClean : session.IsClean word text)
      (taken : session.Takes (session.directory.pathOf word)) :
      Summarises session word
        (.output ("OK: ".toList ++ (session.directory.pathOf word).shown))
  | faulty {contents : Bytes} {text : Text} {messages : List Text}
      (isFile : session.lookUp word = .ok (.file contents))
      (decoded : Utf8.decode contents = .ok text)
      (something :
        Check.findings (session.directory.pathOf word).shown text ≠ [])
      (complete :
        (Check.findings (session.directory.pathOf word).shown text).map
            Finding.message? =
          messages.map some) :
      Summarises session word
        (.complaint
          ("Errors in ".toList ++ (session.directory.pathOf word).shown ++ [':']
            ++ messages.flatMap fun message => "\n  - ".toList ++ message))
  | missing
      (nothing :
        session.lookUp word = .error .missing ∨
          session.lookUp word = .error .notDirectory) :
      Summarises session word
        (.complaint
          ("File not found: ".toList ++ (session.directory.pathOf word).shown))
  | directory
      (isDirectory : session.lookUp word = .ok .directory) :
      Summarises session word
        (.complaint
          ("Could not read ".toList ++ (session.directory.pathOf word).shown
            ++ ": [Errno 21] Is a directory: ".toList
            ++ (session.directory.pathOf word).quoted))
  | illFormed {contents : Bytes} {fault : Utf8.Fault}
      (isFile : session.lookUp word = .ok (.file contents))
      (undecodable : Utf8.decode contents = .error fault) :
      Summarises session word
        (.complaint
          ("Could not read ".toList ++ (session.directory.pathOf word).shown
            ++ ": ".toList ++ fault.message))

/-- Why a run breaks off at a word. -/
inductive Stops (session : Session) (word : Bytes) : Fault → Prop where
  | tooLong
      (refused : session.lookUp word = .error .nameTooLong) :
      Stops session word
        (.access ⟨.nameTooLong, session.directory.pathOf word⟩)
  /-- The fault is in the line that would be printed. -/
  | unprintable {text : Text} {fault : EncodingFault}
      (isClean : session.IsClean word text)
      (notTaken : ¬ session.Takes (session.directory.pathOf word))
      (isFault :
        encodingFault?
            ("OK: ".toList.map .character
              ++ (session.directory.pathOf word).letters) =
          some fault) :
      Stops session word (.unprintable fault)

namespace Utterance

/-- The utterance is not a line of the log. -/
def isSummary : Utterance → Bool
  | note _ => false
  | _ => true

def isOutput : Utterance → Bool
  | output _ => true
  | _ => false

end Utterance

theorem AccessFault.message_isDirectory (path : Bytes) :
    AccessFault.message ⟨.isDirectory, path⟩ =
      "[Errno 21] Is a directory: ".toList ++ path.quoted := by
  have start :
      "[Errno ".toList ++ Text.ofNat AccessError.isDirectory.number
          ++ "] ".toList ++ AccessError.isDirectory.words ++ ": ".toList =
        "[Errno 21] Is a directory: ".toList := by
    decide
  exact congrArg (· ++ path.quoted) start

theorem Session.unreadable_directory (path : Bytes) :
    "Could not read ".toList ++ path.shown ++ ": ".toList
        ++ AccessFault.message ⟨.isDirectory, path⟩ =
      "Could not read ".toList ++ path.shown
        ++ ": [Errno 21] Is a directory: ".toList ++ path.quoted := by
  rw [AccessFault.message_isDirectory, ← List.append_assoc,
    List.append_assoc _ ": ".toList]
  rfl

/-! ## The course of a run -/

/-- How a run over the files goes: what it says about them, and how it ends. -/
inductive Course (session : Session) (files : List Bytes) :
    List Utterance → Ending → Prop where
  | completed {summaries : List Utterance}
      (summarised : List.Forall₂ (Summarises session) files summaries) :
      Course session files summaries
        (.exit (if summaries.all Utterance.isOutput then 0 else 1))
  /-- The run breaks off at a word. -/
  | stopped {summaries : List Utterance} {linted later : List Bytes}
      {word : Bytes} {fault : Fault}
      (whole : files = linted ++ word :: later)
      (summarised : List.Forall₂ (Summarises session) linted summaries)
      (stops : Stops session word fault) :
      Course session files summaries (.broken fault)

namespace Verdict

theorem not_ok_of_ne_nil
    {findings : List Finding} (something : findings ≠ []) (path : Text) :
    ok ⟨path, findings, none⟩ = false := by
  simp [ok, something]

theorem summary?_of_findings
    {findings : List Finding} (something : findings ≠ []) {messages : List Text}
    (complete : findings.mapM Finding.message? = some messages) (path : Text) :
    summary? ⟨path, findings, none⟩ =
      some ("Errors in ".toList ++ path ++ [':']
        ++ messages.flatMap fun message => "\n  - ".toList ++ message) := by
  simp only [summary?, not_ok_of_ne_nil something, messages?, complete]
  rfl

end Verdict

namespace Session

/-! ### Judging one file -/

/-- The line about a path that is no text cannot be written. -/
theorem encodingFault?_line_eq_none_iff (path : Bytes) :
    encodingFault? ("OK: ".toList.map .character ++ path.letters) = none ↔
      path.IsText := by
  rw [encodingFault?_eq_none_iff, Bytes.isText_iff_letters,
    List.forall_mem_append]
  refine and_iff_right (List.forall_mem_map.mpr ?_)
  exact fun _ _ => rfl

theorem printFault?_of_ok
    (session : Session) (path : Bytes) {verdict : Verdict}
    (isOk : verdict.ok = true) :
    session.printFault? path verdict = none ↔ session.Takes path := by
  rw [printFault?, isOk, Bool.and_true, Takes]
  split
  · next strict =>
      rw [encodingFault?_line_eq_none_iff]
      exact ⟨fun isText _ => isText, fun taken => taken strict⟩
  · next lenient => exact ⟨fun _ strict => absurd strict lenient, fun _ => rfl⟩

theorem printFault?_of_not_ok
    (session : Session) (path : Bytes) {verdict : Verdict}
    (notOk : verdict.ok = false) :
    session.printFault? path verdict = none := by
  rw [printFault?, notOk, Bool.and_false]
  rfl

/-- A complaint is always taken, whatever bytes are in the path. -/
theorem judge_of_complaint
    {session : Session} {word : Bytes} {verdict : Verdict} {summary : Text}
    (inspected : (session.inspect word).verdict = .ok verdict)
    (said : verdict.summary? = some summary) (notOk : verdict.ok = false) :
    session.judge word = .ok (verdict, .complaint summary) := by
  rw [judge, inspected]
  simp only [said, session.printFault?_of_not_ok _ notOk, announce, notOk]
  rfl

/-- What a judgement consists of. -/
theorem judge_eq_ok
    {session : Session} {word : Bytes} {verdict : Verdict} {said : Utterance}
    (judged : session.judge word = .ok (verdict, said)) :
    ∃ summary : Text,
      (session.inspect word).verdict = .ok verdict ∧
        verdict.summary? = some summary ∧ said = announce verdict summary := by
  rw [judge] at judged
  split at judged
  · cases judged
  · next found inspected =>
      split at judged
      · cases judged
      · next summary isSummary =>
          dsimp only at judged
          split at judged
          · cases judged
          · cases judged
            exact ⟨summary, inspected, isSummary, rfl⟩

/-- What becomes of a word: a judgement with a summary, or a fault. -/
inductive Judged (session : Session) (word : Bytes) :
    Except Fault (Verdict × Utterance) → Prop where
  | summarised {verdict : Verdict} {said : Utterance}
      (summarises : Summarises session word said)
      (sameOk : said.isOutput = verdict.ok) :
      Judged session word (.ok (verdict, said))
  | stopped {fault : Fault} (stops : Stops session word fault) :
      Judged session word (.error fault)

theorem judged_of_complaint
    {session : Session} {word : Bytes} {verdict : Verdict} {summary : Text}
    (inspected : (session.inspect word).verdict = .ok verdict)
    (said : verdict.summary? = some summary) (notOk : verdict.ok = false)
    (summarises : Summarises session word (.complaint summary)) :
    session.Judged word (session.judge word) := by
  rw [judge_of_complaint inspected said notOk]
  exact .summarised summarises notOk.symm

/-- A file without findings has a summary, unless its path is not taken. -/
theorem judged_of_clean
    {session : Session} {word : Bytes} {text : Text}
    (isClean : session.IsClean word text)
    (inspected :
      (session.inspect word).verdict =
        .ok ⟨(session.directory.pathOf word).shown, [], none⟩) :
    session.Judged word (session.judge word) := by
  have isOk :
      Verdict.ok ⟨(session.directory.pathOf word).shown, [], none⟩ = true :=
    rfl
  have printed :=
    session.printFault?_of_ok (session.directory.pathOf word) isOk
  rw [judge, inspected]
  dsimp only [Verdict.summary?, Verdict.ok, Option.isNone, List.isEmpty,
    Bool.and_true]
  cases isFault : session.printFault? (session.directory.pathOf word)
      ⟨(session.directory.pathOf word).shown, [], none⟩ with
  | none => exact .summarised (.clean isClean (printed.mp isFault)) rfl
  | some fault =>
      have notTaken : ¬ session.Takes (session.directory.pathOf word) := by
        intro taken
        rw [printed.mpr taken] at isFault
        cases isFault
      refine .stopped (.unprintable isClean notTaken ?_)
      rw [printFault?] at isFault
      split at isFault
      · exact isFault
      · cases isFault

theorem verdict_inspectContents
    {contents : Bytes} {text : Text} (decoded : Utf8.decode contents = .ok text)
    (path : Text) :
    (inspectContents path contents).verdict =
      .ok ⟨path, Check.findings path text, none⟩ := by
  rw [inspectContents, decoded]
  rfl

theorem judged_of_file
    {session : Session} {word : Bytes} {contents : Bytes}
    (noNull : Ascii.null ∉ word)
    (isFile : session.lookUp word = .ok (.file contents)) :
    session.Judged word (session.judge word) := by
  have inspected := congrArg Inspection.verdict (session.inspect_eq noNull)
  rw [isFile, inspectEntry] at inspected
  cases decoding : Utf8.decode contents with
  | error fault =>
      rw [inspectContents, decoding] at inspected
      exact judged_of_complaint inspected rfl rfl (.illFormed isFile decoding)
  | ok text =>
      rw [verdict_inspectContents decoding] at inspected
      by_cases nothing :
        Check.findings (session.directory.pathOf word).shown text = []
      · rw [nothing] at inspected
        rw [← (Utf8.decode_eq_ok_iff _ _).mp decoding] at isFile
        exact judged_of_clean ⟨isFile, nothing⟩ inspected
      · obtain ⟨messages, collected, listed⟩ :=
          exists_messages fun finding member =>
            Check.isSome_message?_of_mem member
        exact judged_of_complaint inspected
          (Verdict.summary?_of_findings nothing collected _)
          (Verdict.not_ok_of_ne_nil nothing _)
          (.faulty isFile decoding nothing listed)

/-- Every word without the byte 0 has a summary, or stops the run. -/
theorem judge_judged
    (session : Session) {word : Bytes} (noNull : Ascii.null ∉ word) :
    session.Judged word (session.judge word) := by
  have inspected := congrArg Inspection.verdict (session.inspect_eq noNull)
  cases search : session.lookUp word with
  | error error =>
      rw [search] at inspected
      rcases FileTree.status_error_cases search with rfl | rfl | rfl
      · exact judged_of_complaint inspected rfl rfl (.missing (Or.inl search))
      · exact judged_of_complaint inspected rfl rfl (.missing (Or.inr search))
      · rw [judge, inspected]
        exact .stopped (.tooLong search)
  | ok node =>
      cases node with
      | directory =>
          rw [search] at inspected
          refine judged_of_complaint inspected rfl rfl ?_
          rw [unreadable_directory]
          exact .directory search
      | file contents => exact judged_of_file noNull search

/-! ### Linting file after file -/

theorem filter_notes (session : Session) (lines : List Text) :
    (session.notes lines).filter Utterance.isSummary = [] := by
  rw [List.filter_eq_nil_iff]
  intro utterance member
  rw [notes] at member
  split at member
  · obtain ⟨line, _, rfl⟩ := List.mem_map.mp member
    exact Bool.false_ne_true
  · exact absurd member List.not_mem_nil

theorem isSummary_announce (verdict : Verdict) (summary : Text) :
    (announce verdict summary).isSummary = true := by
  unfold announce
  split <;> rfl

/-- What linting the files says besides the lines of the log. -/
def summaries (session : Session) (files : List Bytes) : List Utterance :=
  (session.lint files).utterances.filter Utterance.isSummary

theorem lint_cons_refused
    {session : Session} {word : Bytes} {fault : Fault}
    (refused : session.judge word = .error fault) (rest : List Bytes) :
    (session.lint (word :: rest)).verdicts = .error fault ∧
      session.summaries (word :: rest) = [] := by
  simp only [summaries, lint, refused, filter_notes, and_self]

theorem lint_cons_judged
    {session : Session} {word : Bytes} {verdict : Verdict} {said : Utterance}
    (judged : session.judge word = .ok (verdict, said)) (rest : List Bytes) :
    (session.lint (word :: rest)).verdicts =
        (session.lint rest).verdicts.map (verdict :: ·) ∧
      session.summaries (word :: rest) = said :: session.summaries rest := by
  obtain ⟨summary, -, -, rfl⟩ := judge_eq_ok judged
  simp only [summaries, lint, judged, List.filter_append, filter_notes,
    List.nil_append, List.filter_cons, isSummary_announce, if_true, and_self]

/-- Either all files have verdicts, or the run breaks off at one of them. -/
theorem lint_course
    (session : Session) {files : List Bytes}
    (noNull : ∀ word ∈ files, Ascii.null ∉ word) :
    (∃ verdicts : List Verdict,
        (session.lint files).verdicts = .ok verdicts ∧
          List.Forall₂ (Summarises session) files (session.summaries files) ∧
          verdicts.all (·.ok) =
            (session.summaries files).all Utterance.isOutput) ∨
      ∃ (linted later : List Bytes) (word : Bytes) (fault : Fault),
        files = linted ++ word :: later ∧
          List.Forall₂ (Summarises session) linted (session.summaries files) ∧
          Stops session word fault ∧
          (session.lint files).verdicts = .error fault := by
  induction files with
  | nil => exact Or.inl ⟨[], rfl, .nil, rfl⟩
  | cons word rest ih =>
      have judgement := session.judge_judged (noNull word List.mem_cons_self)
      generalize judged : session.judge word = outcome at judgement
      cases judgement with
      | stopped stops =>
          have ⟨verdictsEq, summariesEq⟩ := lint_cons_refused judged rest
          rw [verdictsEq, summariesEq]
          exact Or.inr ⟨[], rest, word, _, rfl, .nil, stops, rfl⟩
      | @summarised verdict said summarises sameOk =>
          have ⟨verdictsEq, summariesEq⟩ := lint_cons_judged judged rest
          rw [verdictsEq, summariesEq]
          rcases ih fun later member =>
              noNull later (List.mem_cons_of_mem _ member) with
            ⟨verdicts, linted, allSummarised, sameOks⟩ |
              ⟨linted, later, last, fault, whole, allSummarised, stops, broken⟩
          · refine Or.inl
              ⟨verdict :: verdicts, ?_, .cons summarises allSummarised, ?_⟩
            · rw [linted]
              rfl
            · rw [List.all_cons, List.all_cons, sameOk, sameOks]
          · refine Or.inr ⟨word :: linted, later, last, fault, ?_,
              .cons summarises allSummarised, stops, ?_⟩
            · rw [whole, List.cons_append]
            · rw [broken]
              rfl

/-! ### Whole runs -/

theorem stops_of_verbose
    {session : Session} {verbose : Bool} {word : Bytes} {fault : Fault}
    (stops : Stops { session with verbose := verbose } word fault) :
    Stops session word fault := by
  cases stops with
  | tooLong refused => exact .tooLong refused
  | unprintable isClean notTaken isFault =>
      exact .unprintable ⟨isClean.isFile, isClean.nothing⟩ notTaken isFault

theorem summarises_of_verbose
    {session : Session} {verbose : Bool} {word : Bytes} {said : Utterance}
    (summarises : Summarises { session with verbose := verbose } word said) :
    Summarises session word said := by
  cases summarises with
  | clean isClean taken =>
      exact .clean ⟨isClean.isFile, isClean.nothing⟩ taken
  | faulty isFile decoded something complete =>
      exact .faulty isFile decoded something complete
  | missing nothing => exact .missing nothing
  | directory isDirectory => exact .directory isDirectory
  | illFormed isFile undecodable => exact .illFormed isFile undecodable

/-- A run without a report goes over all files, or up to one that stops it. -/
theorem run_course
    (session : Session) {words files : List Bytes} {verbose : Bool}
    (asked : Request.ofWords words = .lint ⟨files, none, verbose⟩)
    (noNull : ∀ word ∈ files, Ascii.null ∉ word) :
    Course session files
      ((session.run words).utterances.filter Utterance.isSummary)
      (session.run words).ending := by
  have performed :
      session.run words = session.perform ⟨files, none, verbose⟩ := by
    rw [run, asked]
  rw [performed, perform]
  rcases lint_course { session with verbose := verbose } noNull with
    ⟨verdicts, linted, summarised, sameOk⟩ |
      ⟨linted, later, word, fault, whole, summarised, stops, broken⟩
  · simp only [linted, finish, exitCode, sameOk]
    exact .completed (summarised.imp fun _ _ => summarises_of_verbose)
  · simp only [broken]
    exact .stopped whole (summarised.imp fun _ _ => summarises_of_verbose)
      (stops_of_verbose stops)

/-! ### A run over two files -/

def menuWord : Bytes :=
  Utf8.encode "menu".toList

def goneWord : Bytes :=
  Utf8.encode "gone".toList

/-- A working directory. -/
def work : Route :=
  [Utf8.encode ['w']]

def menuContents : Bytes :=
  Utf8.encode "drinks\n  tea\n".toList

/-- The directory has one file, which has no findings. -/
def menu : Session :=
  ⟨FileTree.empty.plant (work ++ [menuWord]) (.file menuContents),
    work, false, true⟩

/-- A name with one byte more than a component may have. -/
def longWord : Bytes :=
  List.replicate (FileTree.nameLimit + 1) 0x61

/-- What is missing does not keep the file after it from its summary. -/
theorem menu_after_missing :
    Request.ofWords [goneWord, menuWord] =
        .lint ⟨[goneWord, menuWord], none, false⟩ ∧
      (∀ word ∈ [goneWord, menuWord], Ascii.null ∉ word) ∧
        Course menu [goneWord, menuWord]
          [.complaint "File not found: /w/gone".toList,
            .output "OK: /w/menu".toList]
          (.exit 1) := by
  have asked :
      Request.ofWords [goneWord, menuWord] =
        .lint ⟨[goneWord, menuWord], none, false⟩ := by
    decide +kernel
  have noNull : ∀ word ∈ [goneWord, menuWord], Ascii.null ∉ word := by
    decide +kernel
  have said :
      (menu.run [goneWord, menuWord]).utterances.filter Utterance.isSummary =
        [.complaint "File not found: /w/gone".toList,
          .output "OK: /w/menu".toList] := by
    decide +kernel
  have ended : (menu.run [goneWord, menuWord]).ending = .exit 1 := by
    decide +kernel
  have course := run_course menu asked noNull
  rw [said, ended] at course
  exact ⟨asked, noNull, course⟩

theorem menu_run_longWord :
    (menu.run [longWord, menuWord]).ending =
      .broken (.access ⟨.nameTooLong, menu.directory.pathOf longWord⟩) := by
  decide +kernel

/-- A name that is too long keeps the file after it from its summary. -/
theorem not_every_file_summarised :
    ¬ ∀ (session : Session) (words files : List Bytes) (verbose : Bool),
      Request.ofWords words = .lint ⟨files, none, verbose⟩ →
        (∀ word ∈ files, Ascii.null ∉ word) →
          List.Forall₂ (Summarises session) files
              ((session.run words).utterances.filter Utterance.isSummary) ∧
            ∃ code ∈ [0, 1], (session.run words).ending = .exit code := by
  intro always
  have asked :
      Request.ofWords [longWord, menuWord] =
        .lint ⟨[longWord, menuWord], none, false⟩ := by
    decide +kernel
  have noNull : ∀ word ∈ [longWord, menuWord], Ascii.null ∉ word := by
    decide +kernel
  have ⟨_, code, _, exits⟩ := always menu _ _ false asked noNull
  rw [menu_run_longWord] at exits
  cases exits

end Session

end OutlineLint
