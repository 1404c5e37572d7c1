import NamePatterns.CommandLine.Invocation
import NamePatterns.Config.Held
import NamePatterns.Config.Load
import NamePatterns.Value.Rows

/-!
# Execution of Commands

What the commands print, report and answer.

A command that comes to its end has lines to print and an answer, yes or no:
checking names answers whether all of them are selected, the others always
answer yes. A command is refused for a list of wildcards that do not go
together and for a file that is no configuration. A file that does not exist is
reported and counts as the default configuration.

## Main definitions

* `CommandLine.Printed`: What a command comes to.
* `CommandLine.Halt`: What keeps it from its end.
* `CommandLine.loadFor`: The configuration for a command.
* `CommandLine.Job.execute`: Doing what a command has to do.
-/

namespace NamePatterns

namespace CommandLine

/-- What a command comes to. -/
structure Printed where
  /-- The lines that it prints. -/
  lines : List String
  /-- Its answer. -/
  answer : Bool
  deriving DecidableEq, Repr

/-- What a command cannot cope with. -/
inductive Failure where
  /-- Something beyond a limit of regular expressions. -/
  | beyondLimit (e : Regex.LimitError)
  /-- An integer that is too long to be converted. -/
  | tooManyDigits (e : Text.TooManyDigits)
  /-- A path that nothing can be at. -/
  | unusable (e : UnusablePath)
  /-- No file where one is needed. -/
  | noFile
  /-- No kind where one is needed. -/
  | noKind
  deriving DecidableEq, Repr

/-- The wording of a failure. -/
def Failure.message : Failure → String
  | beyondLimit e => e.message
  | tooManyDigits e => e.message
  | unusable e => e.message
  | noFile => "'list' object has no attribute 'is_absolute'"
  | noKind => "'list' object has no attribute 'strip'"

/-- What keeps a command from its end. -/
inductive Halt where
  /-- A refusal of what it was given, with the code of the refusal. -/
  | refused (code message : String)
  /-- Something it cannot cope with. -/
  | failed (e : Failure)
  deriving DecidableEq, Repr

namespace Halt

/-- A regular expression beyond a limit. -/
def ofLimit (e : Regex.LimitError) : Halt :=
  failed (.beyondLimit e)

/-- A list of wildcards that is refused. -/
def ofList : Wildcard.ListError → Halt
  | .beyondLimit e => ofLimit e
  | e => refused ErrorClass.patternCompile.code e.message

/-- A configuration that cannot be had. -/
def ofConfig : ConfigError → Halt
  | .invalid e => refused ErrorClass.invalidConfig.code e.message
  | .tooManyDigits e => failed (.tooManyDigits e)

end Halt

/-- Translates wildcards. The fragments that the document shows are translated
    anew, and are reported on anew. -/
def translate (wildcards : List String) (dashes json : Bool) : Logged Halt Printed := do
  let list := " ".intercalate wildcards
  let matcher ← (Wildcard.compileList dashes list).mapError .ofList
  if !json then return ⟨[matcher.source], true⟩
  let fragments ← (Wildcard.fragments dashes list).mapError .ofLimit
  return ⟨Rows.renderTable true
    [("patterns", .text list),
      ("word_boundary_dashes", .bool dashes),
      ("fragments", .list (fragments.map .text)),
      ("regex", .text matcher.source)], true⟩

/-- The report on a configuration file that does not exist. -/
def missingRecord (path : Path) : Log.Record where
  logger := Log.Component.cli.logger
  level := Log.Level.info
  message := "No pytest config found at " ++ path.text ++ "; using pytest defaults"
  fields := [(.component, .text Log.Component.cli.name), (.path, .text path.text)]

/-- The path of the configuration file for a command: an absolute one as it is,
    another one followed from the working directory. -/
def filePath (fs : Files) (p : Path) : Except UnusablePath Path :=
  if p.isAbsolute then .ok p else fs.locate p

/-- The configuration for a command. -/
def loadFor (fs : Files) (file : Option Path) : Logged Halt Config :=
  match file.map (filePath fs) with
  | none => Logged.fail (.failed .noFile)
  | some (.error e) => Logged.fail (.failed (.unusable e))
  | some (.ok path) =>
    match Config.load fs (some path) with
    | .ok (some c) => pure c
    | .ok none => do
      Logged.report (missingRecord path)
      return .default
    | .error e => Logged.fail (.ofConfig e)

/-- Shows a configuration. -/
def display (fs : Files) (file : Option Path) (json : Bool) : Logged Halt Printed := do
  let c ← loadFor fs file
  let shown ← (Held.describe ⟨c, none, none⟩).2.mapError .ofLimit
  return ⟨Rows.renderTable json shown.toTable, true⟩

/-- The line about a name. -/
def mark (result : String × Bool) : String :=
  (if result.2 then "+ " else "- ") ++ result.1

/-- The entry about a name. -/
def resultTable (kind : NameKind) (result : String × Bool) : Table :=
  [("name", .text result.1), ("kind", .text kind.name), ("selected", .bool result.2)]

/-- Checks names against a configuration. -/
def check (fs : Files) (names : List String) (kind : Option NameKind) (file : Option Path)
    (json : Bool) : Logged Halt Printed := do
  let c ← loadFor fs file
  match kind with
  | none => Logged.fail (.failed .noKind)
  | some kind =>
    let selected ← (Held.selectsEach ⟨c, none, none⟩ kind names).2.mapError .ofLimit
    let results := names.zip selected
    let lines :=
      if json then Rows.render true (results.map (resultTable kind)) else results.map mark
    return ⟨lines, selected.all id⟩

/-- Does what a command has to do. -/
def Job.execute (fs : Files) : Job → Logged Halt Printed
  | .translate wildcards dashes json => CommandLine.translate wildcards dashes json
  | .display file json => CommandLine.display fs file json
  | .check names kind file json => CommandLine.check fs names kind file json

end CommandLine

end NamePatterns
