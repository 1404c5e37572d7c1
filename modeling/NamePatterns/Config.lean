import NamePatterns.Config.Source
import NamePatterns.Wildcard.List

/-!
# Configurations

The wildcards that select the names of tests.

A configuration is what a file says about the wildcards, or the default that
says nothing. Two configurations agree if they say the same about the
wildcards, wherever they come from. The regular expressions follow from the
wildcards.

## Main definitions

* `Config`: A configuration.
* `Config.agrees`: Whether two configurations say the same.
* `Config.effective`: The wildcards in force for a kind of names.
* `Config.matcher`: The regular expression for a kind of names.
* `Config.parse`: The configuration in the contents of a file.
* `Description`: What is shown of a configuration.
-/

namespace NamePatterns

/-- A configuration. -/
structure Config where
  /-- What it says about the wildcards. -/
  patterns : Patterns := {}
  /-- Where it says so; nothing for the default. -/
  source : Option Source := none
  deriving DecidableEq, Repr

namespace Config

/-- The configuration that holds where none is given. -/
def default : Config := {}

/-- The configuration in a source. -/
def ofSource (s : Source) : Config :=
  ⟨s.patterns, some s⟩

/-- The configuration in the contents of a file. -/
def parse (content : Content) (format : ConfigFormat) (path : Option Path) :
    Except ConfigError Config :=
  (Source.parse content format path).map ofSource

/-- Whether two configurations say the same about the wildcards. -/
def agrees (c d : Config) : Bool :=
  c.patterns = d.patterns

/-- The format of the file that a configuration comes from. -/
def format (c : Config) : Option ConfigFormat :=
  c.source.map Source.format

/-- The file that a configuration comes from. -/
def path (c : Config) : Option Path :=
  c.source.bind Source.path

/-- The wildcards in force for a kind of names. -/
def effective (c : Config) (kind : NameKind) : String :=
  (c.patterns.get kind).getD kind.defaultWildcards

/-- The regular expression for a kind of names. -/
def matcher (c : Config) (kind : NameKind) : Logged Regex.LimitError NameMatcher :=
  Wildcard.compileListOrNothing kind.dashes (c.effective kind)

/-- Whether a name is selected as one of a kind. -/
def selects (c : Config) (name : String) (kind : NameKind) : Logged Regex.LimitError Bool := do
  Logged.liftExcept ((← c.matcher kind).accepts name)

/-- A configuration as a literal. -/
def literal (c : Config) : String :=
  let shown (kind : NameKind) : String := (Value.ofOption (c.patterns.get kind)).literal
  "PytestConfig(python_classes_raw=" ++ shown .cls ++ ", python_functions_raw="
    ++ shown .function ++ ")"

end Config

/-- What is shown of a configuration. -/
structure Description where
  /-- The configuration. -/
  config : Config
  /-- The source of the regular expression for names of classes. -/
  classes : String
  /-- The source of the regular expression for names of functions. -/
  functions : String
  deriving DecidableEq, Repr

/-- A description as a table. -/
def Description.toTable (d : Description) : Table :=
  [("path", .ofOption (d.config.path.map Path.text)),
    ("format", .ofOption (d.config.format.map ConfigFormat.name)),
    ("python_classes", .ofOption d.config.patterns.classes),
    ("python_functions", .ofOption d.config.patterns.functions),
    ("effective_python_classes", .text (d.config.effective .cls)),
    ("effective_python_functions", .text (d.config.effective .function)),
    ("classes_regex", .text d.classes),
    ("functions_regex", .text d.functions)]

end NamePatterns
