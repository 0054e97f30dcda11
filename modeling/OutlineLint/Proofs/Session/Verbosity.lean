import OutlineLint.Proofs.Session.Channels
import OutlineLint.Proofs.Session.Effects

/-!
# What the log leaves as it is

A session remembers whether it notes its progress, from the last command line
that could be read.  Each run that lints sets this anew before it looks at a
file, so what happened earlier in a session is of no account.  Of two runs with
the same files and the same report, the quiet one is the other without its log.
-/

namespace OutlineLint

/-- The quiet run is observed to be the other one without its log. -/
structure Run.ObservedAlike (quiet loud : Run) : Prop where
  ending : quiet.ending = loud.ending
  output : quiet.output = loud.output
  errorOutput : ∀ clock other : Text,
    quiet.errorOutput clock = loud.withoutLog.errorOutput other
  tree : quiet.session.tree = loud.session.tree

namespace Run

/-- Without its log, a run says the same on its error channel at any time. -/
theorem errorOutput_withoutLog (run : Run) (clock other : Text) :
    run.withoutLog.errorOutput clock = run.withoutLog.errorOutput other := by
  rw [errorOutput, errorOutput, withoutLog]
  apply List.flatMap_congr
  intro utterance member
  cases utterance with
  | note line => cases (List.mem_filter.mp member).2
  | output line | complaint line => rfl

theorem ObservedAlike.of_utterances
    {quiet loud : Run} (said : quiet.utterances = loud.withoutLog.utterances)
    (ending : quiet.ending = loud.ending)
    (tree : quiet.session.tree = loud.session.tree) :
    quiet.ObservedAlike loud := by
  refine ⟨ending, ?_, ?_, tree⟩
  · rw [← loud.output_withoutLog, Run.output, said, Run.output]
  · intro clock other
    rw [Run.errorOutput, said]
    exact loud.errorOutput_withoutLog clock other

end Run

namespace Session

/-! ## Linting -/

theorem summaries_verbose
    (session : Session) (verbose : Bool) (files : List Bytes) :
    summaries { session with verbose := verbose } files =
      session.summaries files := by
  induction files with
  | nil => rfl
  | cons word rest ih =>
      have judgedAlike := session.judge_verbose verbose word
      cases judged : session.judge word with
      | error fault =>
          rw [(lint_cons_refused judged rest).2,
            (lint_cons_refused (judgedAlike.trans judged) rest).2]
      | ok judgement =>
          rw [(lint_cons_judged judged rest).2, ← ih,
            (lint_cons_judged (judgedAlike.trans judged) rest).2]

theorem notes_of_quiet
    {session : Session} (quiet : session.verbose = false) (lines : List Text) :
    session.notes lines = [] := by
  rw [notes, quiet]
  rfl

/-- A quiet session says nothing but summaries. -/
theorem utterances_lint_of_quiet
    {session : Session} (quiet : session.verbose = false)
    (files : List Bytes) :
    (session.lint files).utterances = session.summaries files := by
  rw [summaries, eq_comm, List.filter_eq_self]
  induction files with
  | nil => exact List.forall_mem_nil _
  | cons word rest ih =>
      rw [lint]
      simp only [notes_of_quiet quiet]
      split
      · exact List.forall_mem_nil _
      · next judged =>
          obtain ⟨summary, -, -, rfl⟩ := judge_eq_ok judged
          exact List.forall_mem_cons.mpr ⟨isSummary_announce _ _, ih⟩

/-! ## Whole runs -/

theorem writeReport_verbose
    (session : Session) (verbose : Bool) (path : Bytes) (files : List Bytes)
    (verdicts : List Verdict) :
    writeReport { session with verbose := verbose } path files verdicts =
      session.writeReport path files verdicts := rfl

theorem finish_observedAlike
    (session : Session) (files : List Bytes) (report : Option Bytes)
    (verdicts : List Verdict) {said saidLoudly : List Utterance}
    (saidEq : said = saidLoudly.filter Utterance.isSummary) :
    (finish { session with verbose := false } ⟨files, report, false⟩ said
        verdicts).ObservedAlike
      (finish { session with verbose := true } ⟨files, report, true⟩ saidLoudly
        verdicts) := by
  unfold finish
  dsimp only
  split
  · exact .of_utterances saidEq rfl rfl
  · exact .of_utterances saidEq rfl rfl
  · next path _ =>
      simp only [writeReport_verbose]
      split
      · exact .of_utterances saidEq rfl rfl
      · refine .of_utterances ?_ rfl rfl
        rw [Run.withoutLog, List.filter_append, filter_notes, List.append_nil,
          saidEq]
        exact List.append_nil _

theorem perform_observedAlike
    (session : Session) (files : List Bytes) (report : Option Bytes) :
    (session.perform ⟨files, report, false⟩).ObservedAlike
      (session.perform ⟨files, report, true⟩) := by
  have said :
      (lint { session with verbose := false } files).utterances =
        (lint { session with verbose := true } files).utterances.filter
          Utterance.isSummary := by
    rw [utterances_lint_of_quiet rfl, summaries_verbose,
      ← summaries_verbose session true, summaries]
  rw [perform, perform]
  dsimp only
  simp only [verdicts_lint_verbose]
  split
  · exact .of_utterances said rfl rfl
  · exact session.finish_observedAlike files report _ said

/-- Where a session works: its directory, and its output channel. -/
structure SamePlace (session other : Session) : Prop where
  directory : session.directory = other.directory
  strictOutput : session.strictOutput = other.strictOutput

theorem SamePlace.trans
    {first second third : Session} (left : SamePlace first second)
    (right : SamePlace second third) : SamePlace first third :=
  ⟨left.directory.trans right.directory,
    left.strictOutput.trans right.strictOutput⟩

theorem SamePlace.symm
    {session other : Session} (same : SamePlace session other) :
    SamePlace other session :=
  ⟨same.directory.symm, same.strictOutput.symm⟩

/-- What is remembered from earlier runs is of no account. -/
theorem perform_congr
    {session other : Session} (sameTree : session.tree = other.tree)
    (samePlace : SamePlace session other) (options : Options) :
    session.perform options = other.perform options := by
  rw [perform, perform, sameTree, samePlace.directory, samePlace.strictOutput]

/-! ## Runs after other runs -/

theorem samePlace_finish
    (session : Session) (options : Options) (said : List Utterance)
    (verdicts : List Verdict) :
    SamePlace (session.finish options said verdicts).session session := by
  unfold finish
  split
  · exact ⟨rfl, rfl⟩
  · exact ⟨rfl, rfl⟩
  · dsimp only
    split <;> exact ⟨rfl, rfl⟩

theorem samePlace_run (session : Session) (words : List Bytes) :
    SamePlace (session.run words).session session := by
  rw [run]
  split
  · exact ⟨rfl, rfl⟩
  · exact ⟨rfl, rfl⟩
  · next options _ =>
      rw [perform]
      split
      · exact ⟨rfl, rfl⟩
      · exact (samePlace_finish _ _ _ _).trans ⟨rfl, rfl⟩

/-- The session that is left after one run for each of the command lines. -/
def afterRuns (session : Session) (history : List (List Bytes)) : Session :=
  history.foldl (fun earlier words => (earlier.run words).session) session

theorem samePlace_afterRuns
    (session : Session) (history : List (List Bytes)) :
    SamePlace (session.afterRuns history) session := by
  induction history generalizing session with
  | nil => exact ⟨rfl, rfl⟩
  | cons words later ih => exact (ih _).trans (session.samePlace_run words)

/--
Whatever was run before in either session, runs with the same files and the same
report differ by the log of the one that is not quiet.
-/
theorem run_observedAlike
    {session other : Session} {history otherHistory : List (List Bytes)}
    {words otherWords files : List Bytes} {report : Option Bytes}
    (samePlace : SamePlace session other)
    (sameTree :
      (session.afterRuns history).tree = (other.afterRuns otherHistory).tree)
    (quiet : Request.ofWords words = .lint ⟨files, report, false⟩)
    (loud : Request.ofWords otherWords = .lint ⟨files, report, true⟩) :
    ((session.afterRuns history).run words).ObservedAlike
      ((other.afterRuns otherHistory).run otherWords) := by
  have samePlaceNow :
      SamePlace (session.afterRuns history) (other.afterRuns otherHistory) :=
    (session.samePlace_afterRuns history).trans
      (samePlace.trans (other.samePlace_afterRuns otherHistory).symm)
  rw [run, quiet, run, loud]
  dsimp only
  rw [perform_congr sameTree samePlaceNow]
  exact perform_observedAlike _ files report

/-- A run with a log, and one that ends because no file is named. -/
def menuHistory : List (List Bytes) :=
  [[Flag.verbose.word, menuWord], []]

/-- A run over a clean and a missing file, with a report. -/
def quietWords : List Bytes :=
  [menuWord, goneWord, Flag.report.word, twiceWord]

/-- Runs after two other runs, and as the first one with a log. -/
theorem menu_observedAlike :
    SamePlace menu menu ∧
      (menu.afterRuns menuHistory).tree = (menu.afterRuns []).tree ∧
        Request.ofWords quietWords =
            .lint ⟨[menuWord, goneWord], some twiceWord, false⟩ ∧
          Request.ofWords (Flag.verbose.word :: quietWords) =
              .lint ⟨[menuWord, goneWord], some twiceWord, true⟩ ∧
            ((menu.afterRuns menuHistory).run quietWords).ObservedAlike
              ((menu.afterRuns []).run (Flag.verbose.word :: quietWords)) := by
  have samePlace : SamePlace menu menu := ⟨rfl, rfl⟩
  have sameTree :
      (menu.afterRuns menuHistory).tree = (menu.afterRuns []).tree := by
    decide +kernel
  have quiet :
      Request.ofWords quietWords =
        .lint ⟨[menuWord, goneWord], some twiceWord, false⟩ := by
    decide +kernel
  have loud :
      Request.ofWords (Flag.verbose.word :: quietWords) =
        .lint ⟨[menuWord, goneWord], some twiceWord, true⟩ := by
    decide +kernel
  exact ⟨samePlace, sameTree, quiet, loud,
    run_observedAlike samePlace sameTree quiet loud⟩

end Session

end OutlineLint
