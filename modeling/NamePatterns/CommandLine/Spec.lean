import NamePatterns.Config.Defaults
import NamePatterns.Log.Setup

/-!
# The Command Line in Words

What can be written on the command line.

The program has options of its own and three commands, each with its options
and operands. The two logging options stand among those of the program and
among those of every command.

## Main definitions

* `CommandLine.Flag`: An option.
* `CommandLine.Operand`: What stands besides options.
* `CommandLine.Command`: The commands.
* `CommandLine.Spec`: The options and operands of the program or of a command.
* `CommandLine.program`, `CommandLine.Command.spec`: The specifications.

## Theorems

* `CommandLine.Command.ofName?_name`: A command is known by its name.
-/

namespace NamePatterns

namespace CommandLine

/-- What an option takes. -/
inductive Takes where
  /-- Nothing. -/
  | nothing
  /-- Nothing; it asks for help. -/
  | help
  /-- One of the choices. -/
  | choice (choices : List String)
  /-- Anything, called by a name in help texts. -/
  | anything (placeholder : String)
  deriving DecidableEq, Repr

/-- Whether an option takes a value. -/
def Takes.value : Takes → Bool
  | nothing | help => false
  | choice _ | anything _ => true

/-- An option. -/
structure Flag where
  /-- Its spellings, with their dashes. -/
  spellings : List String
  /-- What it takes. -/
  takes : Takes
  /-- What it is for. -/
  purpose : String
  /-- What holds if it is not given, as help texts show it. -/
  otherwise : Option String
  deriving DecidableEq, Repr

/-- What stands besides options. -/
inductive Operand where
  /-- Nothing. -/
  | none
  /-- One or more texts, called by a name, with what they are for. -/
  | several (name purpose : String)
  /-- A command, and whatever follows it. -/
  | command
  deriving DecidableEq, Repr

/-- The options and operands of the program or of one of its commands. -/
structure Spec where
  /-- The words by which it is called. -/
  name : String
  /-- What it does, if its help text says so. -/
  description : Option String
  /-- Its options. -/
  flags : List Flag
  /-- What stands besides them. -/
  operand : Operand
  deriving DecidableEq, Repr

/-- The option that asks for help. -/
def helpFlag : Flag :=
  ⟨["-h", "--help"], .help, "show this help message and exit", none⟩

/-- The option for the form of log records. -/
def logFormatFlag : Flag :=
  ⟨["--log-format"], .choice Log.formatNames,
    "Select logging output format (human-readable text or structured JSON).", some "text"⟩

/-- The option for the level of log records. -/
def logLevelFlag : Flag :=
  ⟨["--log-level"], .choice (Log.namedLevels.map (·.1)), "Set verbosity of logged events.",
    some "warning"⟩

/-- The options that the program and all commands have. -/
def sharedFlags : List Flag :=
  [helpFlag, logFormatFlag, logLevelFlag]

/-- The option that asks for the version. -/
def versionFlag : Flag :=
  ⟨["--version"], .nothing, "Print the pytestimp version and exit.", some "False"⟩

/-- The option for dashes as starts of words. -/
def dashesFlag : Flag :=
  ⟨["--dashes"], .nothing,
    "Treat dashes outside character classes as CamelCase word boundaries.", some "False"⟩

/-- The option for the configuration file. -/
def configFlag : Flag :=
  ⟨["-c", "--config"], .anything "CONFIG",
    "pytest.ini or pyproject.toml to read python_classes/python_functions from.",
    some defaultFileName⟩

/-- The option for JSON. -/
def jsonFlag : Flag :=
  ⟨["--json"], .nothing, "Emit machine-readable JSON instead of text.", some "False"⟩

/-- The option for the kind of names. -/
def kindFlag : Flag :=
  ⟨["--kind"], .choice [NameKind.cls.name, NameKind.function.name],
    "Whether the names are test classes or test functions.", some NameKind.function.name⟩

/-- The name of the program. -/
def programName : String := "pytestimp"

/-- The version of the program. -/
def version : String := "0.1.0"

/-- The commands. -/
inductive Command where
  /-- Translating wildcards. -/
  | translate
  /-- Showing a configuration. -/
  | display
  /-- Checking names against a configuration. -/
  | check
  deriving DecidableEq, Repr

namespace Command

/-- All commands. -/
def all : List Command :=
  [translate, display, check]

/-- The name of a command. -/
def name : Command → String
  | translate => "compile"
  | display => "show"
  | check => "match"

/-- A command by its exact name. -/
def ofName? (name : String) : Option Command :=
  all.find? (·.name == name)

/-- A command is known by its name. -/
theorem ofName?_name (c : Command) : ofName? c.name = some c := by
  cases c <;> rfl

/-- What a command is for. -/
def purpose : Command → String
  | translate => "Translate wildcard patterns into a regular expression"
  | display => "Show python_classes/python_functions and their regexes"
  | check => "Report which names the pytest config selects"

/-- The options of a command besides those that all commands have. -/
def ownFlags : Command → List Flag
  | translate => [dashesFlag, jsonFlag]
  | display => [configFlag, jsonFlag]
  | check => [kindFlag, configFlag, jsonFlag]

/-- What stands besides the options of a command. -/
def operand : Command → Operand
  | translate => .several "patterns" "Wildcard patterns, e.g. 'test_*' 'check_*'."
  | display => .none
  | check => .several "names" "Class or function names to check."

/-- The options and operands of a command. -/
def spec (c : Command) : Spec :=
  ⟨programName ++ " " ++ c.name, none, sharedFlags ++ c.ownFlags, c.operand⟩

end Command

/-- The options and operands of the program. -/
def program : Spec :=
  ⟨programName,
    some ("Translate pytest python_classes/python_functions wildcards into regular "
      ++ "expressions."),
    sharedFlags ++ [versionFlag], .command⟩

end CommandLine

end NamePatterns
