import OutlineLint.CommandLine.Argument

/-!
# Requests

The arguments of a command line are taken from left to right.  The files are the
first run of neighbouring operands that are not values of flags, and a divider
inside or before the run belongs to it.  Operands after that run are not
recognized.  A call for help and a wrong value end the reading at once; words
that are not recognized are reported at the end, before missing files.
-/

namespace OutlineLint

structure Options where
  files : List Bytes
  report : Option Bytes
  verbose : Bool
  deriving DecidableEq, Repr

inductive Request where
  | help
  | rejected (error : UsageError)
  | lint (options : Options)
  deriving DecidableEq, Repr

namespace Request

/-- How far the run of files has come. -/
inductive FileRun where
  | before
  | within
  | past
  deriving DecidableEq, Repr

/-- What the arguments read so far amount to. -/
structure Progress where
  run : FileRun
  files : List Bytes
  report : Option Bytes
  verbose : Bool
  unrecognized : List Bytes
  deriving DecidableEq, Repr

namespace Progress

def start : Progress :=
  ⟨.before, [], none, false, []⟩

/-- A flag ends the run of files. -/
def endRun (progress : Progress) : Progress :=
  match progress.run with
  | .within => { progress with run := .past }
  | _ => progress

def addOperand (progress : Progress) (word : Bytes) : Progress :=
  match progress.run with
  | .past => { progress with unrecognized := progress.unrecognized ++ [word] }
  | _ => { progress with run := .within, files := progress.files ++ [word] }

def addDivider (progress : Progress) : Progress :=
  match progress.run with
  | .past =>
      { progress with
        unrecognized := progress.unrecognized ++ [Argument.dividerWord] }
  | _ => { progress with run := .within }

def addUnknown (progress : Progress) (word : Bytes) : Progress :=
  { progress.endRun with unrecognized := progress.unrecognized ++ [word] }

/--
The path of the report; a later one takes the place of an earlier one.  The word
of the divider is no path and takes an earlier one back.
-/
def setReport (progress : Progress) (path : Bytes) : Progress :=
  { progress.endRun with
    report := if path = Argument.dividerWord then none else some path }

def setVerbose (progress : Progress) : Progress :=
  { progress.endRun with verbose := true }

/-- What is asked for once all arguments are read. -/
def request (progress : Progress) : Request :=
  if !progress.unrecognized.isEmpty then
    rejected (.unrecognized progress.unrecognized)
  else if progress.files.isEmpty then
    rejected .noFiles
  else
    lint ⟨progress.files, progress.report, progress.verbose⟩

end Progress

/--
The short flag for help with further bytes in its word.  Each `h` among them
repeats the flag, and the rest from the first other byte on is a value, which
the flag does not take.
-/
def ofShortHelp (tail : Bytes) : Request :=
  match tail.dropWhile (· = Ascii.letterH) with
  | [] => if tail.isEmpty then rejected (.valueIgnored .help []) else help
  | value => rejected (.valueIgnored .help value)

def ofArguments (progress : Progress) : List Argument → Request
  | [] => progress.request
  | .operand word :: rest => ofArguments (progress.addOperand word) rest
  | .divider :: rest => ofArguments progress.addDivider rest
  | .unknown word :: rest => ofArguments (progress.addUnknown word) rest
  | .shortHelp tail :: _ => ofShortHelp tail
  | .flag .help none :: _ => help
  | .flag .verbose none :: rest => ofArguments progress.setVerbose rest
  | .flag .report none :: .operand path :: rest =>
      ofArguments (progress.setReport path) rest
  | .flag .report none :: _ => rejected (.valueExpected .report)
  | .flag .report (some path) :: rest =>
      ofArguments (progress.setReport path) rest
  | .flag flag (some value) :: _ => rejected (.valueIgnored flag value)

def ofWords (words : List Bytes) : Request :=
  match Argument.ofWords words with
  | .error error => rejected error
  | .ok arguments => ofArguments .start arguments

end Request

end OutlineLint
