import OutlineLint.Check
import OutlineLint.CommandLine.Request
import OutlineLint.FileTree.Write
import OutlineLint.Report

/-!
# Sessions

A session is the file tree in which the linter runs, the working directory,
whether it notes its progress, and how its output channel takes stray bytes.  A
run takes a command line, says lines on its channels, and leaves a session
behind.  It ends with an exit code or in a fault: a path cannot be dealt with,
or it is no text and cannot be printed or written.

The files are linted first, in the order in which they are named.  The report is
written after that, and it is the only change that a run makes to the tree.  The
file of the report is emptied when it is opened, so that a report that breaks
off takes the place of what was there, too.
-/

namespace OutlineLint

/-- What breaks a run off. -/
inductive Fault where
  | nullInPath
  | access (fault : AccessFault)
  /-- A finding lacks a detail that its message needs. -/
  | incompleteFinding
  /-- The output channel does not take the path of a file without findings. -/
  | unprintable (fault : EncodingFault)
  /-- The path of a file cannot be written to the report. -/
  | unreportable (fault : EncodingFault)
  deriving DecidableEq, Repr

def Fault.message : Fault → Text
  | nullInPath => "embedded null byte".toList
  | access fault => fault.message
  | incompleteFinding => "incomplete finding".toList
  | unprintable fault | unreportable fault => fault.message

/--
Something that a run says.  Stray bytes of a path are said as they are shown.
-/
inductive Utterance where
  | output (line : Text)
  | complaint (line : Text)
  /-- A line of the log, on the error channel. -/
  | note (line : Text)
  deriving DecidableEq, Repr

namespace Utterance

def onOutput : Utterance → Text
  | output line => line ++ ['\n']
  | _ => []

/--
What the utterance adds to the error channel when the clock shows `clock`.
-/
def onError (clock : Text) : Utterance → Text
  | output _ => []
  | complaint line => line ++ ['\n']
  | note line => '[' :: clock ++ "] [INFO] ".toList ++ line ++ ['\n']

end Utterance

/-- The state in which a run begins and ends. -/
structure Session where
  tree : FileTree
  directory : Route
  verbose : Bool
  /-- The output channel takes no stray bytes; the error channel always does. -/
  strictOutput : Bool
  deriving DecidableEq, Repr

inductive Ending where
  | exit (code : Nat)
  | broken (fault : Fault)
  deriving DecidableEq, Repr

/-- A run: what it says, how it ends, and the session that it leaves. -/
structure Run where
  utterances : List Utterance
  ending : Ending
  session : Session
  deriving DecidableEq, Repr

/-- The outcome of looking at one file, and what is noted about it. -/
structure Inspection where
  notes : List Text
  verdict : Except Fault Verdict

/-- The outcome of linting several files, and what is said about them. -/
structure Linting where
  utterances : List Utterance
  verdicts : Except Fault (List Verdict)

/-- The outcome of writing a report: the tree, and what stopped the writing. -/
structure Writing where
  tree : FileTree
  fault : Option Fault
  deriving DecidableEq, Repr

namespace Session

/-- The path has the byte 0, which no path may hold. -/
def holdsNull (path : Bytes) : Bool :=
  path.contains Ascii.null

def missingVerdict (path : Text) : Verdict :=
  ⟨path, [], some ("File not found: ".toList ++ path)⟩

def unreadableVerdict (path reason : Text) : Verdict :=
  ⟨path, [], some ("Could not read ".toList ++ path ++ ": ".toList ++ reason)⟩

/-- The outcome of reading and checking the contents of a file. -/
def inspectContents (path : Text) (contents : Bytes) : Inspection :=
  match Utf8.decode contents with
  | .error fault => ⟨[], .ok (unreadableVerdict path fault.message)⟩
  | .ok text =>
      let examination := Check.examine path text
      ⟨examination.note.toList, .ok ⟨path, examination.findings, none⟩⟩

/--
The outcome for a path at which the file system finds an entry or none.  What is
not there has a verdict, and so has a directory; a path that is refused for
another reason breaks the run off.
-/
def inspectEntry (path : Bytes) : Except AccessError Node → Inspection
  | .error .missing | .error .notDirectory =>
      ⟨[], .ok (missingVerdict path.shown)⟩
  | .error error => ⟨[], .error (.access ⟨error, path⟩)⟩
  | .ok .directory =>
      let reason := AccessFault.message ⟨.isDirectory, path⟩
      ⟨[], .ok (unreadableVerdict path.shown reason)⟩
  | .ok (.file contents) => inspectContents path.shown contents

/-- The entry that a word names, or why there is none. -/
def lookUp (session : Session) (word : Bytes) : Except AccessError Node :=
  let route := Route.resolve session.directory word
  session.tree.status session.directory (PathName.ofRoute route)

/-- The outcome of looking at the file that a word names. -/
def inspect (session : Session) (word : Bytes) : Inspection :=
  if holdsNull word then
    ⟨[], .error .nullInPath⟩
  else
    inspectEntry (session.directory.pathOf word) (session.lookUp word)

/-- The log lines of a session that notes its progress. -/
def notes (session : Session) (lines : List Text) : List Utterance :=
  if session.verbose then lines.map .note else []

/-- What keeps the output channel from taking what is said about a file. -/
def printFault? (session : Session) (path : Bytes) (verdict : Verdict) :
    Option EncodingFault :=
  if session.strictOutput && verdict.ok then
    encodingFault? ("OK: ".toList.map .character ++ path.letters)
  else
    none

def announce (verdict : Verdict) (summary : Text) : Utterance :=
  if verdict.ok then .output summary else .complaint summary

/-- The verdict on the file that a word names, and what is said about it. -/
def judge (session : Session) (word : Bytes) :
    Except Fault (Verdict × Utterance) :=
  match (session.inspect word).verdict with
  | .error fault => .error fault
  | .ok verdict =>
      match verdict.summary? with
      | none => .error .incompleteFinding
      | some summary =>
          let path := session.directory.pathOf word
          match session.printFault? path verdict with
          | some fault => .error (.unprintable fault)
          | none => .ok (verdict, announce verdict summary)

def lint (session : Session) : List Bytes → Linting
  | [] => ⟨[], .ok []⟩
  | word :: rest =>
      let noted :=
        session.notes
          (("Checking ".toList ++ word.shown) :: (session.inspect word).notes)
      match session.judge word with
      | .error fault => ⟨noted, .error fault⟩
      | .ok (verdict, said) =>
          let later := lint session rest
          ⟨noted ++ said :: later.utterances,
            later.verdicts.map (verdict :: ·)⟩

/--
Opens a file for writing, after the directories that lead to it are made, and
writes a text to it.
-/
def writeText (session : Session) (path : Bytes) (text : Text) : Writing :=
  let name := PathName.ofPath path
  if holdsNull name.parent.bytes then
    ⟨session.tree, some .nullInPath⟩
  else
    let parents := session.tree.makeDirectories session.directory name.parent
    match parents.fault with
    | some fault => ⟨parents.tree, some (.access fault)⟩
    | none =>
        if holdsNull name.bytes then
          ⟨parents.tree, some .nullInPath⟩
        else
          let contents := Utf8.encode text
          match parents.tree.writeFile session.directory name contents with
          | .error error => ⟨parents.tree, some (.access ⟨error, name.bytes⟩)⟩
          | .ok tree => ⟨tree, none⟩

/--
Writes the report on the verdicts on the files.  A path that is no text stops
the writing when the file of the report has been opened already.
-/
def writeReport
    (session : Session) (path : Bytes)
    (files : List Bytes) (verdicts : List Verdict) : Writing :=
  match Report.dump? (files.map session.directory.pathOf) verdicts with
  | none => ⟨session.tree, some .incompleteFinding⟩
  | some dump =>
      let writing := session.writeText path dump.text
      ⟨writing.tree, writing.fault.or (dump.fault.map .unreportable)⟩

def exitCode (verdicts : List Verdict) : Nat :=
  if verdicts.all (·.ok) then 0 else 1

/--
Goes on with the report once all files are linted; an empty path asks for none.
-/
def finish
    (session : Session) (options : Options)
    (said : List Utterance) (verdicts : List Verdict) : Run :=
  match options.report with
  | none | some [] => ⟨said, .exit (exitCode verdicts), session⟩
  | some path =>
      let writing := session.writeReport path options.files verdicts
      let changed := { session with tree := writing.tree }
      match writing.fault with
      | some fault => ⟨said, .broken fault, changed⟩
      | none =>
          ⟨said ++ session.notes ["Report written to ".toList ++ path.shown],
            .exit (exitCode verdicts), changed⟩

/-- Lints the files of the options and reports on them. -/
def perform (session : Session) (options : Options) : Run :=
  let session := { session with verbose := options.verbose }
  let linting := session.lint options.files
  match linting.verdicts with
  | .error fault => ⟨linting.utterances, .broken fault, session⟩
  | .ok verdicts => session.finish options linting.utterances verdicts

def run (session : Session) (words : List Bytes) : Run :=
  match Request.ofWords words with
  | .help => ⟨[.output Usage.help], .exit 0, session⟩
  | .rejected error => ⟨[.complaint (Usage.complaint error)], .exit 2, session⟩
  | .lint options => session.perform options

end Session

namespace Run

def output (run : Run) : Text :=
  run.utterances.flatMap Utterance.onOutput

/-- All that a run says on its error channel when the clock shows `clock`. -/
def errorOutput (run : Run) (clock : Text) : Text :=
  run.utterances.flatMap (Utterance.onError clock)

end Run

end OutlineLint
