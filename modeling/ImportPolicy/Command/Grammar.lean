/-!
# The grammar of the command line

The program has commands, each with options and positional arguments of its
own; in front of the command stand the options of the program itself. A
`Grammar` says what a row of arguments may hold and how it is presented: the
line or lines of usage that every complaint starts with, and the help.

An option has one or more spellings. It takes a value or it does not.
-/

namespace ImportPolicy.Command

/-- The commands. -/
inductive Name where
  | check
  | explain
  | help
  deriving DecidableEq, Repr

/-- All commands, in the order in which they are listed. -/
def Name.all : List Name := [.check, .explain, .help]

/-- A command as it is written. -/
def Name.toString : Name → String
  | .check => "check"
  | .explain => "explain"
  | .help => "help"

/-- The command that is written so. -/
def Name.ofString? (text : String) : Option Name := Name.all.find? (·.toString = text)

/-- The options. -/
inductive Flag where
  | help
  | version
  | format
  | includeTests
  | config
  | quiet
  | verbose
  deriving DecidableEq, Repr

namespace Flag

/-- The spellings of an option. -/
def spellings : Flag → List String
  | help => ["-h", "--help"]
  | version => ["--version", "-V"]
  | format => ["--format", "-f"]
  | includeTests => ["--include-tests"]
  | config => ["--config", "-c"]
  | quiet => ["--quiet", "-q"]
  | verbose => ["--verbose", "-v"]

/-- Whether an option takes a value. -/
def takesValue : Flag → Bool
  | format | config => true
  | _ => false

/-- An option in a complaint. -/
def shown (f : Flag) : String := String.intercalate "/" f.spellings

end Flag

/-- The positional arguments. -/
inductive Positional where
  /-- The command with everything behind it. -/
  | command
  /-- The file to explain. -/
  | file
  /-- The root of the project. -/
  | path
  deriving DecidableEq, Repr

/-- A positional argument in a complaint. -/
def Positional.shown : Positional → String
  | .command => "command"
  | .file => "file"
  | .path => "path"

/-- Whether a positional argument has to be there. -/
def Positional.isRequired : Positional → Bool
  | .file => true
  | .command | .path => false

/-- What a row of arguments may hold. -/
structure Grammar where
  /-- What complaints are signed with. -/
  program : String
  /-- The options, in order. -/
  flags : List Flag
  /-- The positional arguments, in order. -/
  positionals : List Positional
  /-- The lines of usage. -/
  usage : String
  /-- What the help says behind the lines of usage. -/
  details : String

namespace Grammar

/-- The spellings of all options, each with its option, in order. -/
def spellings (g : Grammar) : List (String × Flag) :=
  g.flags.flatMap fun f => f.spellings.map (·, f)

/-- The option with a spelling. -/
def flag? (g : Grammar) (spelling : String) : Option Flag := g.spellings.lookup spelling

/-- The whole help. -/
def help (g : Grammar) : String := g.usage ++ "\n" ++ g.details

/-- What is said about the help option. -/
def helpEntry : String := "  -h, --help            show this help message and exit\n"

/-- What is said about the root of the project. -/
def pathEntry : String := "  path                  Project root (default: .)\n"

/-- What is said about the options that two commands share. -/
def sharedEntries : String :=
  "  --config CONFIG, -c CONFIG\n"
    ++ "                        Policy file (.toml, .json or pyproject.toml); default:\n"
    ++ "                        discover under project root\n"
    ++ "  --quiet, -q           Only warnings and errors on stderr\n"
    ++ "  --verbose, -v         Debug logging on stderr\n"

/-- The arguments of the program. -/
def main : Grammar where
  program := "importguard"
  flags := [.help, .version]
  positionals := [.command]
  usage := "usage: importguard [-h] [--version] \x7bcheck,explain,help\x7d ...\n"
  details :=
    "importguard: per-file import policy checks\n\n"
      ++ "positional arguments:\n"
      ++ "  \x7bcheck,explain,help\x7d\n"
      ++ "    check               Report imports not allowed by the policy\n"
      ++ "    explain             Show which imports a file may use\n"
      ++ "    help                Show importguard command overview\n\n"
      ++ "options:\n" ++ helpEntry
      ++ "  --version, -V         show program's version number and exit\n\n"
      ++ "Commands: check | explain. Use importguard help for an overview.\n"

/-- The arguments of the command that checks a project. -/
def check : Grammar where
  program := "importguard check"
  flags := [.help, .format, .includeTests, .config, .quiet, .verbose]
  positionals := [.path]
  usage :=
    "usage: importguard check [-h] [--format \x7btext,json\x7d] [--include-tests]\n"
      ++ "                         [--config CONFIG] [--quiet] [--verbose]\n"
      ++ "                         [path]\n"
  details :=
    "positional arguments:\n" ++ pathEntry ++ "\n"
      ++ "options:\n" ++ helpEntry
      ++ "  --format \x7btext,json\x7d, -f \x7btext,json\x7d\n"
      ++ "                        Output format (default: text)\n"
      ++ "  --include-tests       Also check files under tests/\n" ++ sharedEntries

/-- The arguments of the command that explains a file. -/
def explain : Grammar where
  program := "importguard explain"
  flags := [.help, .config, .quiet, .verbose]
  positionals := [.file, .path]
  usage :=
    "usage: importguard explain [-h] [--config CONFIG] [--quiet] [--verbose]\n"
      ++ "                           file [path]\n"
  details :=
    "positional arguments:\n"
      ++ "  file                  File path relative to project root (e.g.\n"
      ++ "                        src/ui/button.py)\n" ++ pathEntry ++ "\n"
      ++ "options:\n" ++ helpEntry ++ sharedEntries

/-- The arguments of the command that gives an overview. -/
def overview : Grammar where
  program := "importguard help"
  flags := [.help]
  positionals := []
  usage := "usage: importguard help [-h]\n"
  details := "options:\n  -h, --help  show this help message and exit\n"

/-- The arguments of a command. -/
def ofName : Name → Grammar
  | .check => check
  | .explain => explain
  | .help => overview

end Grammar

end ImportPolicy.Command
