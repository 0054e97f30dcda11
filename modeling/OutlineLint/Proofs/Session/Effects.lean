import OutlineLint.Proofs.FileTree.Effects
import OutlineLint.Proofs.Session.Channels

/-!
# What a run changes

The report is written last, from verdicts that are all there by then.  A run
makes at most the directories that lead to the report and then the file of the
report.

A run that breaks off has changed no file, with one exception.  The file of the
report is emptied before the report is written, and a path that is no text stops
the writing.  What was in the file is lost then, and it holds the beginning of
the report up to that path.

A report may be written in the place of a file that has just been linted.  The
contents of every other linted file stay as they were.
-/

namespace OutlineLint

/-- The path of the report that is asked for; an empty path asks for none. -/
def Request.reportPath? : Request → Option Bytes
  | lint options => options.report.filter (!·.isEmpty)
  | _ => none

namespace Session

/-! ## Verdicts and verbosity -/

theorem judge_verbose (session : Session) (verbose : Bool) (word : Bytes) :
    judge { session with verbose := verbose } word = session.judge word := rfl

/-- Whether progress is noted makes no difference to the verdicts. -/
theorem verdicts_lint_verbose
    (session : Session) (verbose : Bool) (files : List Bytes) :
    (lint { session with verbose := verbose } files).verdicts =
      (session.lint files).verdicts := by
  induction files with
  | nil => rfl
  | cons word rest ih =>
      rw [lint, lint, judge_verbose]
      dsimp only
      split
      · rfl
      · exact congrArg (Except.map _) ih

/-! ## The effect of a run -/

/-- The directories that lead to the report have been made, or some of them. -/
def Prepared (session : Session) (path : Bytes) (tree : FileTree) : Prop :=
  FileTree.Grown
    ((PathName.ofPath path).parent.LeadsThrough session.directory)
    session.tree tree

/-- The files have been linted, and this is the whole report on them. -/
inductive Reported (session : Session) (options : Options) :
    Ending → Text → Prop where
  | whole {verdicts : List Verdict} {text : Text}
      (linted : (session.lint options.files).verdicts = .ok verdicts)
      (isText : Report.text? verdicts = some text) :
      Reported session options (.exit (exitCode verdicts)) text

/--
The files have been linted, and the report on them breaks off before the path of
a file, the first one that is no text.  What comes before it has been written.
-/
inductive CutOff (session : Session) (options : Options) :
    Ending → Text → Prop where
  | before {earlier later : List Bytes} {word : Bytes}
      {verdicts : List Verdict} {entries : List Json} {fault : EncodingFault}
      {text : Text}
      (split : options.files = earlier ++ word :: later)
      (texts : ∀ file ∈ earlier, (session.directory.pathOf file).IsText)
      (noText : ¬ (session.directory.pathOf word).IsText)
      (isFault :
        Report.pathFault? (session.directory.pathOf word) = some fault)
      (linted : (session.lint options.files).verdicts = .ok verdicts)
      (isText : Report.text? verdicts = some text)
      (areBefore :
        (verdicts.take earlier.length).map Report.verdictEntry? =
          entries.map some)
      (goesOn :
        Report.beginning (verdicts.all (·.ok)) entries
            ++ Json.writeText (session.directory.pathOf word).shown <+: text) :
      CutOff session options (.broken (.unreportable fault))
        (Report.beginning (verdicts.all (·.ok)) entries)

/-- What a run makes of the tree, by what it is asked for and by its end. -/
inductive Effect (session : Session) (request : Request) :
    Ending → FileTree → Prop where
  | unasked {ending : Ending} (noReport : request.reportPath? = none)
      (notOpened : ∀ failure : EncodingFault,
        ending ≠ .broken (.unreportable failure)) :
      Effect session request ending session.tree
  | unfinished {path : Bytes} {tree : FileTree} {fault : Fault}
      (asked : request.reportPath? = some path)
      (notOpened : ∀ failure : EncodingFault, fault ≠ .unreportable failure)
      (prepared : session.Prepared path tree) :
      Effect session request (.broken fault) tree
  | written {options : Options} {path : Bytes} {text : Text} {ending : Ending}
      {tree changed : FileTree}
      (isLint : request = .lint options)
      (asked : request.reportPath? = some path)
      (isReport :
        session.Reported options ending text ∨
          session.CutOff options ending text)
      (prepared : session.Prepared path tree)
      (writes :
        tree.writeFile session.directory (PathName.ofPath path)
            (Utf8.encode text) =
          .ok changed) :
      Effect session request ending changed

theorem Effect.tree_eq
    {session : Session} {request : Request} {ending : Ending} {tree : FileTree}
    (effect : session.Effect request ending tree)
    (noReport : request.reportPath? = none) :
    tree = session.tree := by
  cases effect with
  | unasked => rfl
  | unfinished asked => cases noReport.symm.trans asked
  | written _ asked => cases noReport.symm.trans asked

/-- A text is written completely, or no more than directories are made. -/
theorem writeText_cases (session : Session) (path : Bytes) (text : Text) :
    (∃ fault : Fault,
        (session.writeText path text).fault = some fault ∧
          (∀ failure : EncodingFault, fault ≠ .unreportable failure) ∧
          session.Prepared path (session.writeText path text).tree) ∨
      (session.writeText path text).fault = none ∧
        ∃ tree : FileTree, session.Prepared path tree ∧
          tree.writeFile session.directory (PathName.ofPath path)
              (Utf8.encode text) =
            .ok (session.writeText path text).tree := by
  have prepared := session.tree.grown_makeDirectories session.directory
    (PathName.ofPath path).parent
  simp only [writeText]
  split
  · exact Or.inl ⟨_, rfl, by simp, FileTree.Grown.refl session.tree⟩
  · split
    · exact Or.inl ⟨_, rfl, by simp, prepared⟩
    · split
      · exact Or.inl ⟨_, rfl, by simp, prepared⟩
      · split
        · exact Or.inl ⟨_, rfl, by simp, prepared⟩
        · next writes => exact Or.inr ⟨rfl, _, prepared, writes⟩

/-- Where the writing ends decides how the run ends. -/
theorem reported_or_cutOff
    {session : Session} {options : Options} {verdicts : List Verdict}
    (linted : (session.lint options.files).verdicts = .ok verdicts)
    {dump : Report.Dump}
    (isDump :
      Report.dump? (options.files.map session.directory.pathOf) verdicts =
        some dump)
    {text : Text} (isText : Report.text? verdicts = some text) :
    dump.fault = none ∧
        session.Reported options (.exit (exitCode verdicts)) dump.text ∨
      ∃ fault : EncodingFault,
        dump.fault = some fault ∧
          session.CutOff options (.broken (.unreportable fault)) dump.text := by
  cases Report.dump?_dumped isDump with
  | whole texts isWhole => exact Or.inl ⟨rfl, .whole linted isWhole⟩
  | upTo split texts noText isFault areBefore =>
      obtain ⟨earlier, others, whole, rfl, isNext⟩ :=
        List.map_eq_append_iff.mp split
      obtain ⟨word, later, rfl, rfl, rfl⟩ := List.map_eq_cons_iff.mp isNext
      have samePaths := paths_of_lint linted
      rw [split] at samePaths
      have goesOn :=
        Report.beginning_prefix_text samePaths areBefore isText
      rw [List.length_map] at areBefore
      exact Or.inr ⟨_, rfl, .before whole
        (fun file member => texts _ (List.mem_map_of_mem member)) noText isFault
        linted isText areBefore goesOn⟩

theorem finish_effect
    {session : Session} {options : Options} {verdicts : List Verdict}
    (linted : (session.lint options.files).verdicts = .ok verdicts)
    (said : List Utterance) :
    session.Effect (.lint options) (session.finish options said verdicts).ending
      (session.finish options said verdicts).session.tree := by
  unfold finish
  split
  · next noReport =>
      exact .unasked (by rw [Request.reportPath?, noReport]; rfl) (by simp)
  · next emptyReport =>
      exact .unasked (by rw [Request.reportPath?, emptyReport]; rfl) (by simp)
  · next path nonempty isReport =>
      have asked : (Request.lint options).reportPath? = some path := by
        rw [Request.reportPath?, isReport]
        cases path with
        | nil => exact absurd rfl nonempty
        | cons first rest => rfl
      dsimp only
      rw [writeReport]
      cases isDump : Report.dump? (options.files.map session.directory.pathOf)
          verdicts with
      | none =>
          exact .unfinished asked (by simp) (FileTree.Grown.refl session.tree)
      | some dump =>
          obtain ⟨text, isText⟩ := Report.exists_text_of_dump? isDump
          rcases session.writeText_cases path dump.text with
            ⟨fault, isFault, notOpened, prepared⟩ |
              ⟨noFault, tree, prepared, writes⟩
          · simp only [isFault, Option.some_or]
            exact .unfinished asked notOpened prepared
          · rcases reported_or_cutOff linted isDump isText with
              ⟨noneLeft, reported⟩ | ⟨fault, isFault, cutOff⟩
            · simp only [noFault, noneLeft, Option.map_none, Option.or_none]
              exact .written rfl asked (Or.inl reported) prepared writes
            · simp only [noFault, isFault, Option.map_some, Option.none_or]
              exact .written rfl asked (Or.inr cutOff) prepared writes

/--
A session that notes its progress has no effects that it
would not have otherwise.
-/
theorem Effect.of_verbose
    {session : Session} {verbose : Bool} {request : Request} {ending : Ending}
    {tree : FileTree}
    (effect :
      Effect { session with verbose := verbose } request ending tree) :
    session.Effect request ending tree := by
  cases effect with
  | unasked noReport notOpened => exact .unasked noReport notOpened
  | unfinished asked notOpened prepared =>
      exact .unfinished asked notOpened prepared
  | written isLint asked isReport prepared writes =>
      refine .written isLint asked ?_ prepared writes
      rcases isReport with ⟨linted, isText⟩ |
        ⟨split, texts, noText, isFault, linted, isText, areBefore, goesOn⟩
      · rw [verdicts_lint_verbose] at linted
        exact Or.inl (.whole linted isText)
      · rw [verdicts_lint_verbose] at linted
        exact Or.inr
          (.before split texts noText isFault linted isText areBefore goesOn)

theorem ne_unreportable_of_judge
    {session : Session} {word : Bytes} {fault : Fault}
    (refused : session.judge word = .error fault) (failure : EncodingFault) :
    fault ≠ .unreportable failure := by
  rw [judge] at refused
  split at refused
  · next found inspected =>
      cases refused
      rw [inspect] at inspected
      split at inspected
      · cases inspected
        simp
      · unfold inspectEntry at inspected
        split at inspected
        · cases inspected
        · cases inspected
        · cases inspected
          simp
        · cases inspected
        · rw [inspectContents] at inspected
          split at inspected <;> cases inspected
  · split at refused
    · cases refused
      simp
    · dsimp only at refused
      split at refused
      · cases refused
        simp
      · cases refused

/-- While files are linted, no report is opened. -/
theorem ne_unreportable_of_lint
    {session : Session} {files : List Bytes} {fault : Fault}
    (refused : (session.lint files).verdicts = .error fault)
    (failure : EncodingFault) :
    fault ≠ .unreportable failure := by
  induction files with
  | nil => cases refused
  | cons word rest ih =>
      cases judged : session.judge word with
      | error found =>
          rw [(lint_cons_refused judged rest).1] at refused
          cases refused
          exact ne_unreportable_of_judge judged failure
      | ok judgement =>
          rw [(lint_cons_judged judged rest).1] at refused
          cases later : (session.lint rest).verdicts with
          | error found =>
              rw [later] at refused
              cases refused
              exact ih later
          | ok others =>
              rw [later] at refused
              cases refused

theorem perform_effect (session : Session) (options : Options) :
    session.Effect (.lint options) (session.perform options).ending
      (session.perform options).session.tree := by
  rw [perform]
  cases linted :
      (lint { session with verbose := options.verbose }
        options.files).verdicts with
  | error fault =>
      dsimp only
      have notOpened := ne_unreportable_of_lint linted
      cases asked : (Request.lint options).reportPath? with
      | none =>
          refine .unasked asked fun failure same => ?_
          exact notOpened failure (Ending.broken.inj same)
      | some path =>
          exact .unfinished asked notOpened (FileTree.Grown.refl session.tree)
  | ok verdicts =>
      dsimp only
      exact (finish_effect linted _).of_verbose

theorem run_effect (session : Session) (words : List Bytes) :
    session.Effect (Request.ofWords words) (session.run words).ending
      (session.run words).session.tree := by
  rw [run]
  cases Request.ofWords words with
  | help => exact .unasked rfl (by simp)
  | rejected error => exact .unasked rfl (by simp)
  | lint options => exact session.perform_effect options

/-! ## What may change -/

/--
The run comes to write the report, and the path of the report means the route.
-/
def WritesReportAt
    (session : Session) (request : Request) (ending : Ending)
    (route : Route) : Prop :=
  ((∃ code : Nat, ending = .exit code) ∨
      ∃ failure : EncodingFault, ending = .broken (.unreportable failure)) ∧
    ∃ path : Bytes, request.reportPath? = some path ∧
      Route.resolve session.directory path = route

/--
What may become of the entry at a route, by what the run is
asked for and by its end.
-/
inductive Change
    (session : Session) (request : Request) (ending : Ending) (route : Route) :
    Option Node → Option Node → Prop where
  | untouched (entry : Option Node)
      (kept : ¬ session.WritesReportAt request ending route) :
      Change session request ending route entry entry
  | directoryMade {path : Bytes} (asked : request.reportPath? = some path)
      (onTheWay :
        (PathName.ofPath path).parent.LeadsThrough session.directory route)
      (kept : ¬ session.WritesReportAt request ending route) :
      Change session request ending route none (some .directory)
  | reportWritten {options : Options} {path : Bytes} {text : Text}
      {before : Option Node}
      (isLint : request = .lint options)
      (asked : request.reportPath? = some path)
      (isPlace : Route.resolve session.directory path = route)
      (isReport :
        session.Reported options ending text ∨
          session.CutOff options ending text)
      (noDirectory : before ≠ some .directory) :
      Change session request ending route before
        (some (.file (Utf8.encode text)))

theorem Prepared.change
    {session : Session} {request : Request} {path : Bytes} {tree : FileTree}
    (prepared : session.Prepared path tree)
    (asked : request.reportPath? = some path)
    {ending : Ending} {route : Route}
    (kept : ¬ session.WritesReportAt request ending route) :
    session.Change request ending route
      (session.tree.node? route) (tree.node? route) := by
  rcases prepared route with same | ⟨onTheWay, absent, isDirectory⟩
  · rw [same]
    exact .untouched _ kept
  · rw [absent, isDirectory]
    exact .directoryMade asked onTheWay kept

theorem Effect.change
    {session : Session} {request : Request} {ending : Ending} {tree : FileTree}
    (effect : session.Effect request ending tree) (route : Route) :
    session.Change request ending route
      (session.tree.node? route) (tree.node? route) := by
  cases effect with
  | unasked noReport =>
      refine .untouched _ ?_
      rintro ⟨_, path, asked, _⟩
      cases noReport.symm.trans asked
  | unfinished asked notOpened prepared =>
      refine prepared.change asked ?_
      rintro ⟨⟨code, exits⟩ | ⟨failure, broken⟩, _⟩
      · cases exits
      · cases broken
        exact notOpened failure rfl
  | @written options path text _ made _ isLint asked isReport prepared writes =>
      obtain ⟨noDirectory, isWritten, elsewhere⟩ :=
        FileTree.node?_of_writeFile writes
      rw [PathName.routeIn_ofPath] at noDirectory isWritten elsewhere
      by_cases isPlace : route = Route.resolve session.directory path
      · subst isPlace
        rw [isWritten]
        refine .reportWritten isLint asked rfl isReport ?_
        intro wasDirectory
        rcases prepared (Route.resolve session.directory path) with
          same | ⟨_, absent, _⟩
        · exact noDirectory (same.trans wasDirectory)
        · rw [absent] at wasDirectory
          cases wasDirectory
      · rw [elsewhere route isPlace]
        refine prepared.change asked ?_
        rintro ⟨_, other, askedOther, rfl⟩
        cases asked.symm.trans askedOther
        exact isPlace rfl

/--
Nothing in the tree has changed but the file of the report, if one is asked for,
and the directories that lead to it.
-/
structure ChangesOnlyReport
    (session : Session) (request : Request) (run : Run) : Prop where
  contents : ∀ (route : Route) (contents : Bytes),
    session.tree.node? route = some (.file contents) →
      (∀ path ∈ request.reportPath?,
        Route.resolve session.directory path ≠ route) →
        run.session.tree.node? route = some (.file contents)
  filesStay : ∀ (route : Route) (contents : Bytes),
    session.tree.node? route = some (.file contents) →
      ∃ later : Bytes, run.session.tree.node? route = some (.file later)
  directoriesStay : ∀ route : Route,
    session.tree.node? route = some .directory →
      run.session.tree.node? route = some .directory
  newFiles : ∀ (route : Route) (contents : Bytes),
    session.tree.node? route = none →
      run.session.tree.node? route = some (.file contents) →
        ∃ path ∈ request.reportPath?,
          Route.resolve session.directory path = route
  /-- New directories are on the way to the report. -/
  newDirectories : ∀ route : Route,
    session.tree.node? route = none →
      run.session.tree.node? route = some .directory →
        ∃ path ∈ request.reportPath?,
          (PathName.ofPath path).parent.LeadsThrough session.directory route
  unasked : request.reportPath? = none → run.session.tree = session.tree
  /-- A run that exits has written the whole report. -/
  written : ∀ (code : Nat) (path : Bytes),
    run.ending = .exit code → request.reportPath? = some path →
      ∃ (options : Options) (text : Text),
        request = .lint options ∧ session.Reported options run.ending text ∧
          run.session.tree.node? (Route.resolve session.directory path) =
            some (.file (Utf8.encode text))
  /--
  A run that breaks off has neither made nor changed a file, unless it has begun
  a report that cannot be written.
  -/
  broken : ∀ fault : Fault, run.ending = .broken fault →
    (∀ failure : EncodingFault, fault ≠ .unreportable failure) →
      ∀ (route : Route) (contents : Bytes),
        run.session.tree.node? route = some (.file contents) ↔
          session.tree.node? route = some (.file contents)
  /-- The file of such a report holds what could be written. -/
  cutOff : ∀ failure : EncodingFault,
    run.ending = .broken (.unreportable failure) →
      ∃ (options : Options) (path : Bytes) (text : Text),
        request = .lint options ∧ request.reportPath? = some path ∧
          session.CutOff options run.ending text ∧
            run.session.tree.node? (Route.resolve session.directory path) =
              some (.file (Utf8.encode text))

section Change

variable {session : Session} {request : Request} {ending : Ending}
  {route : Route} {before after : Option Node}
  (change : session.Change request ending route before after)

include change

theorem Change.eq_of_elsewhere
    {contents : Bytes} (wasFile : before = some (.file contents))
    (elsewhere : ∀ path ∈ request.reportPath?,
      Route.resolve session.directory path ≠ route) :
    after = some (.file contents) := by
  cases change with
  | untouched => exact wasFile
  | directoryMade => cases wasFile
  | reportWritten _ asked isPlace => exact absurd isPlace (elsewhere _ asked)

theorem Change.file_stays
    {contents : Bytes} (wasFile : before = some (.file contents)) :
    ∃ later : Bytes, after = some (.file later) := by
  cases change with
  | untouched => exact ⟨contents, wasFile⟩
  | directoryMade => cases wasFile
  | reportWritten => exact ⟨_, rfl⟩

theorem Change.directory_stays (wasDirectory : before = some .directory) :
    after = some .directory := by
  cases change with
  | untouched => exact wasDirectory
  | directoryMade => rfl
  | reportWritten _ _ _ _ noDirectory => exact absurd wasDirectory noDirectory

theorem Change.resolve_of_new_file
    {contents : Bytes} (absent : before = none)
    (isFile : after = some (.file contents)) :
    ∃ path ∈ request.reportPath?,
      Route.resolve session.directory path = route := by
  cases change with
  | untouched => cases absent.symm.trans isFile
  | directoryMade => cases isFile
  | reportWritten _ asked isPlace => exact ⟨_, asked, isPlace⟩

theorem Change.leadsThrough_of_new_directory
    (absent : before = none) (isDirectory : after = some .directory) :
    ∃ path ∈ request.reportPath?,
      (PathName.ofPath path).parent.LeadsThrough session.directory route := by
  cases change with
  | untouched => cases absent.symm.trans isDirectory
  | directoryMade asked onTheWay _ => exact ⟨_, asked, onTheWay⟩
  | reportWritten => cases isDirectory

/-- Where the report is written, the file holds it or a beginning of it. -/
theorem Change.report_of_writesReportAt
    (writes : session.WritesReportAt request ending route) :
    ∃ (options : Options) (text : Text),
      request = .lint options ∧
        (session.Reported options ending text ∨
          session.CutOff options ending text) ∧
          after = some (.file (Utf8.encode text)) := by
  cases change with
  | untouched _ kept | directoryMade _ _ kept => exact absurd writes kept
  | reportWritten isLint _ _ isReport => exact ⟨_, _, isLint, isReport, rfl⟩

theorem Change.file_iff_of_broken
    {fault : Fault} (broken : ending = .broken fault)
    (notOpened : ∀ failure : EncodingFault, fault ≠ .unreportable failure)
    (contents : Bytes) :
    after = some (.file contents) ↔ before = some (.file contents) := by
  cases change with
  | untouched => exact Iff.rfl
  | directoryMade => exact ⟨nofun, nofun⟩
  | reportWritten _ _ _ isReport =>
      rcases isReport with reported | cutOff
      · cases reported
        cases broken
      · cases cutOff
        cases broken
        exact absurd rfl (notOpened _)

end Change

/-- A report that breaks off has been asked for. -/
theorem Effect.exists_path_of_unreportable
    {session : Session} {request : Request} {ending : Ending} {tree : FileTree}
    (effect : session.Effect request ending tree) {failure : EncodingFault}
    (broken : ending = .broken (.unreportable failure)) :
    ∃ path : Bytes, request.reportPath? = some path := by
  cases effect with
  | unasked _ notOpened => exact absurd broken (notOpened failure)
  | unfinished asked | written _ asked => exact ⟨_, asked⟩

/--
Whatever a run is asked for and however it ends, the
report is all that it changes.
-/
theorem run_changesOnlyReport (session : Session) (words : List Bytes) :
    session.ChangesOnlyReport (Request.ofWords words) (session.run words) := by
  have effect := session.run_effect words
  constructor
  case contents => exact fun route _ => (effect.change route).eq_of_elsewhere
  case filesStay => exact fun route _ => (effect.change route).file_stays
  case directoriesStay =>
    exact fun route => (effect.change route).directory_stays
  case newFiles =>
    exact fun route _ => (effect.change route).resolve_of_new_file
  case newDirectories =>
    exact fun route => (effect.change route).leadsThrough_of_new_directory
  case unasked => exact effect.tree_eq
  case written =>
    intro code path exits asked
    obtain ⟨options, text, isLint, reported | cutOff, isWritten⟩ :=
      (effect.change _).report_of_writesReportAt
        ⟨Or.inl ⟨code, exits⟩, path, asked, rfl⟩
    · exact ⟨options, text, isLint, reported, isWritten⟩
    · rw [exits] at cutOff
      cases cutOff
  case broken =>
    exact fun _ broken notOpened route =>
      (effect.change route).file_iff_of_broken broken notOpened
  case cutOff =>
    intro failure broken
    obtain ⟨path, asked⟩ := effect.exists_path_of_unreportable broken
    obtain ⟨options, text, isLint, reported | cutOff, isWritten⟩ :=
      (effect.change _).report_of_writesReportAt
        ⟨Or.inr ⟨failure, broken⟩, path, asked, rfl⟩
    · rw [broken] at reported
      cases reported
    · exact ⟨options, path, text, isLint, asked, cutOff, isWritten⟩

/-! ### A report that breaks off -/

/-- A word with a byte that belongs to no character. -/
def strayWord : Bytes :=
  Utf8.encode "caf".toList ++ [0xE9]

/-- The missing file is to be reported where the file of the menu is. -/
def strayWords : List Bytes :=
  [strayWord, Flag.report.word, menuWord]

/-- What comes of these arguments: the file of the menu is lost. -/
theorem menu_run_strayWords :
    (menu.run strayWords).ending =
        .broken (.unreportable ⟨7, 1, 0xE9⟩) ∧
      (menu.run strayWords).session.tree.node? (work ++ [menuWord]) =
        some (.file (Utf8.encode (Report.beginning false []))) := by
  decide +kernel

/-- A run that breaks off may have overwritten a file. -/
theorem not_every_broken_run_keeps_files :
    ¬ ∀ (session : Session) (words : List Bytes) (fault : Fault),
      (session.run words).ending = .broken fault →
        ∀ (route : Route) (contents : Bytes),
          (session.run words).session.tree.node? route =
              some (.file contents) ↔
            session.tree.node? route = some (.file contents) := by
  intro always
  have kept := always menu strayWords _ menu_run_strayWords.1
    (work ++ [menuWord]) (Utf8.encode (Report.beginning false []))
  have other :
      menu.tree.node? (work ++ [menuWord]) ≠
        some (.file (Utf8.encode (Report.beginning false []))) := by
    decide +kernel
  exact other (kept.mp menu_run_strayWords.2)

/-! ## The linted files -/

/-- What a linted file holds after the run, by what it held before. -/
inductive Holds
    (session : Session) (options : Options) (ending : Ending) (route : Route)
    (before : Bytes) : Bytes → Prop where
  | asBefore
      (kept : ¬ session.WritesReportAt (.lint options) ending route) :
      Holds session options ending route before before
  /-- The report has been written in the place of the file. -/
  | report {path : Bytes} {text : Text}
      (asked : (Request.lint options).reportPath? = some path)
      (isPlace : Route.resolve session.directory path = route)
      (reported : session.Reported options ending text) :
      Holds session options ending route before (Utf8.encode text)
  /-- The report has been begun in the place of the file, and breaks off. -/
  | beginning {path : Bytes} {text : Text}
      (asked : (Request.lint options).reportPath? = some path)
      (isPlace : Route.resolve session.directory path = route)
      (cutOff : session.CutOff options ending text) :
      Holds session options ending route before (Utf8.encode text)

theorem Change.holds
    {session : Session} {options : Options} {ending : Ending} {route : Route}
    {before after : Option Node} {contents : Bytes}
    (change : session.Change (.lint options) ending route before after)
    (wasFile : before = some (.file contents)) :
    ∃ later : Bytes,
      after = some (.file later) ∧
        session.Holds options ending route contents later := by
  cases change with
  | untouched _ kept => exact ⟨contents, wasFile, .asBefore kept⟩
  | directoryMade => cases wasFile
  | reportWritten isLint asked isPlace isReport =>
      cases isLint
      rcases isReport with reported | cutOff
      · exact ⟨_, rfl, .report asked isPlace reported⟩
      · exact ⟨_, rfl, .beginning asked isPlace cutOff⟩

/--
A file that is linted holds after the run what it held before.  Only if the path
of the report means the file as well, and the run comes to write the report, it
holds the report, or the beginning of one that breaks off.
-/
theorem run_holds
    (session : Session) {words : List Bytes} {options : Options}
    (asked : Request.ofWords words = .lint options) :
    ∀ word ∈ options.files, ∀ before : Bytes,
      session.tree.node? (Route.resolve session.directory word) =
          some (.file before) →
        ∃ after : Bytes,
          (session.run words).session.tree.node?
                (Route.resolve session.directory word) =
              some (.file after) ∧
            session.Holds options (session.run words).ending
              (Route.resolve session.directory word) before after := by
  intro word _ before wasFile
  have effect := session.run_effect words
  rw [asked] at effect
  exact (effect.change _).holds wasFile

def otherMenuWord : Bytes :=
  Utf8.encode "./menu".toList

/--
A run in whose arguments the file and the report are one,
though spelled differently.
-/
def overwritingWords : List Bytes :=
  [menuWord, Flag.report.word, otherMenuWord]

/-- What these arguments ask for. -/
def overwritingOptions : Options :=
  ⟨[menuWord], some otherMenuWord, false⟩

theorem overwritingWords_ask :
    Request.ofWords overwritingWords = .lint overwritingOptions := by
  decide +kernel

theorem node?_menu :
    menu.tree.node? (Route.resolve menu.directory menuWord) =
      some (.file menuContents) := by
  decide +kernel

/-- The clean file is there before the run, and the report after it. -/
theorem menu_overwritten :
    Request.ofWords overwritingWords = .lint overwritingOptions ∧
      menuWord ∈ overwritingOptions.files ∧
        menu.tree.node? (Route.resolve menu.directory menuWord) =
            some (.file menuContents) ∧
          ∃ after : Bytes,
            (menu.run overwritingWords).session.tree.node?
                (Route.resolve menu.directory menuWord) =
                  some (.file after) ∧
              menu.Holds overwritingOptions (menu.run overwritingWords).ending
                (Route.resolve menu.directory menuWord) menuContents after := by
  have member : menuWord ∈ overwritingOptions.files := List.mem_cons_self
  exact ⟨overwritingWords_ask, member, node?_menu,
    run_holds menu overwritingWords_ask _ member _ node?_menu⟩

/-- A linted file may be lost to the report. -/
theorem not_every_linted_file_kept :
    ¬ ∀ (session : Session) (words : List Bytes) (options : Options),
      Request.ofWords words = .lint options →
        ∀ word ∈ options.files, ∀ before : Bytes,
          session.tree.node? (Route.resolve session.directory word) =
              some (.file before) →
            (session.run words).session.tree.node?
                (Route.resolve session.directory word) =
              some (.file before) := by
  intro always
  have kept := always menu _ _ overwritingWords_ask _ List.mem_cons_self _
    node?_menu
  have lost :
      (menu.run overwritingWords).session.tree.node?
          (Route.resolve menu.directory menuWord) ≠
        some (.file menuContents) := by
    decide +kernel
  exact lost kept

end Session

end OutlineLint
