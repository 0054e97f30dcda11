import OutlineLint.Finding
import OutlineLint.Json
import OutlineLint.Text.Letters

/-!
# Verdicts and reports

The verdict on a file holds its findings or, if the file could not be read, the
failure.  A failure takes the place of the messages of the findings.

A report is a JSON document with the verdicts of a run.  It lists the findings
of a file even where a failure takes the place of their messages elsewhere.  Its
text is written piece by piece, and the writing stops at the first path that is
no text.  What has been written by then stays.
-/

namespace OutlineLint

/-! ## Verdicts -/

/-- The outcome of linting one file. -/
structure Verdict where
  path : Text
  findings : List Finding
  failure : Option Text
  deriving DecidableEq, Repr

namespace Verdict

/-- The file was read and has no findings. -/
def ok (verdict : Verdict) : Bool :=
  verdict.failure.isNone && verdict.findings.isEmpty

/-- What there is to say about the file; absent if a finding has no message. -/
def messages? (verdict : Verdict) : Option (List Text) :=
  match verdict.failure with
  | some failure => some [failure]
  | none => verdict.findings.mapM Finding.message?

/-- The lines that report the file, without a final line feed. -/
def summary? (verdict : Verdict) : Option Text :=
  if verdict.ok then
    some ("OK: ".toList ++ verdict.path)
  else
    match verdict.failure with
    | some failure => some failure
    | none =>
        verdict.messages?.map fun messages =>
          "Errors in ".toList ++ verdict.path ++ [':']
            ++ messages.flatMap (fun message => "\n  - ".toList ++ message)

end Verdict

/-! ## Reports -/

namespace Report

def toolName : Text :=
  "cfglint".toList

/-- The entry of a finding; absent if the finding has no message. -/
def findingEntry? (finding : Finding) : Option Json :=
  finding.message?.map fun message =>
    .object
      [("kind".toList, .text finding.detail.kind),
       ("row".toList, .integer finding.position.row),
       ("col".toList, .integer finding.position.col),
       ("message".toList, .text message)]

/-- The entry of a verdict; absent if one of its findings has no message. -/
def verdictEntry? (verdict : Verdict) : Option Json :=
  (verdict.findings.mapM findingEntry?).map fun entries =>
    .object
      [("path".toList, .text verdict.path),
       ("ok".toList, .boolean verdict.ok),
       ("errors".toList, .list entries),
       ("failure".toList, verdict.failure.elim .null .text)]

def ofEntries (valid : Bool) (entries : List Json) : Json :=
  .object
    [("tool".toList, .text toolName),
     ("valid".toList, .boolean valid),
     ("files".toList, .list entries)]

def ofVerdicts? (verdicts : List Verdict) : Option Json :=
  (verdicts.mapM verdictEntry?).map (ofEntries (verdicts.all (·.ok)))

def text? (verdicts : List Verdict) : Option Text :=
  (ofVerdicts? verdicts).map (Json.write 0)

/-! ## Writing a report -/

/-- What is written to the file of a report, and what stops the writing. -/
structure Dump where
  text : Text
  fault : Option EncodingFault
  deriving DecidableEq, Repr

/-- A letter inside the quotes of a string. -/
def escapedLetter : Letter → List Letter
  | .character value => (Json.escaped value).map .character
  | .stray byte => [.stray byte]

/-- The letters of a path in quotes. -/
def quotedPath (path : Bytes) : List Letter :=
  .character '"' :: path.letters.flatMap escapedLetter ++ [.character '"']

/-- What keeps the path from being written. -/
def pathFault? (path : Bytes) : Option EncodingFault :=
  encodingFault? (quotedPath path)

/--
What has been written of a report when the path of a file is due, and the given
entries are those of the files before it.
-/
def beginning (valid : Bool) (entries : List Json) : Text :=
  Json.beginBlock 0 '{'
      (Json.writeMembers 1
        [("tool".toList, .text toolName), ("valid".toList, .boolean valid)])
    ++ Json.writeText "files".toList ++ ": ".toList
    ++ Json.beginBlock 1 '[' (Json.writeElements 2 entries)
    ++ Json.beginBlock 2 '{' []
    ++ Json.writeText "path".toList ++ ": ".toList

/-- What is written of the report on files with these paths and verdicts. -/
def dump? (paths : List Bytes) (verdicts : List Verdict) : Option Dump :=
  (verdicts.mapM verdictEntry?).map fun entries =>
    let valid := verdicts.all (·.ok)
    match paths.findSome? pathFault? with
    | none => ⟨Json.write 0 (ofEntries valid entries), none⟩
    | some fault =>
        let written := paths.takeWhile fun path => (pathFault? path).isNone
        ⟨beginning valid (entries.take written.length), some fault⟩

end Report

end OutlineLint
