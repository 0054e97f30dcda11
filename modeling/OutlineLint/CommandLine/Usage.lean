import OutlineLint.Text.Letters

/-!
# Flags and usage

The linter has three flags.  A usage error says what is wrong with the words of
a command line; it is told below the form that a command line has, and the help
text explains this form.
-/

namespace OutlineLint

/-! ## Flags -/

inductive Flag where
  | help
  | report
  | verbose
  deriving DecidableEq, Repr

namespace Flag

/-- All flags, in the order of the help text. -/
def all : List Flag :=
  [help, report, verbose]

def name : Flag → Text
  | help => "--help".toList
  | report => "--report".toList
  | verbose => "--verbose".toList

/-- The word for a flag on a command line. -/
def word (flag : Flag) : Bytes :=
  Utf8.encode flag.name

/-- The short name of the flag `help`. -/
def shortHelp : Text :=
  "-h".toList

/-- All names of a flag, as error messages give them. -/
def title : Flag → Text
  | help => shortHelp ++ '/' :: help.name
  | flag => flag.name

end Flag

/-! ## Usage errors -/

/-- What is wrong with a command line. -/
inductive UsageError where
  | noFiles
  | valueExpected (flag : Flag)
  | valueIgnored (flag : Flag) (value : Bytes)
  | ambiguous (given : Bytes) (candidates : List Flag)
  /-- The words have no place in the command line. -/
  | unrecognized (words : List Bytes)
  deriving DecidableEq, Repr

def UsageError.message : UsageError → Text
  | noFiles => "at least one config file is required".toList
  | valueExpected flag =>
      "argument ".toList ++ flag.title ++ ": expected one argument".toList
  | valueIgnored flag value =>
      "argument ".toList ++ flag.title
        ++ ": ignored explicit argument ".toList ++ value.quoted
  | ambiguous given candidates =>
      "ambiguous option: ".toList ++ given.shown ++ " could match ".toList
        ++ List.intercalate ", ".toList (candidates.map Flag.name)
  | unrecognized words =>
      "unrecognized arguments: ".toList
        ++ List.intercalate [' '] (words.map Bytes.shown)

/-! ## Usage and help -/

namespace Usage

/-- The form of the command line, in one line. -/
def usageLine : Text :=
  "usage: cfglint [-h] [--report REPORT] [--verbose] [FILE ...]".toList

/-- The help text, without its last line feed. -/
def help : Text :=
  List.intercalate ['\n']
    [usageLine,
     [],
     "Check config files for bracket balance, duplicate entries and ".toList
       ++ "unresolved".toList,
     "tokens.".toList,
     [],
     "positional arguments:".toList,
     "  FILE             Config file(s) to lint".toList,
     [],
     "options:".toList,
     "  -h, --help       show this help message and exit".toList,
     "  --report REPORT  Write a JSON lint report to this path".toList,
     "  --verbose        Log progress to stderr".toList]

/-- What is said about a usage error, without the last line feed. -/
def complaint (error : UsageError) : Text :=
  usageLine ++ "\ncfglint: error: ".toList ++ error.message

end Usage

end OutlineLint
