import NamePatterns.CommandLine.Reading
import NamePatterns.Path

/-!
# Invocations

What a command line asks for.

The program reads its own options and hands what follows the command on to it.
The logging options of the command count, with their own defaults; those of the
program are checked and then dropped. A word that belongs nowhere refuses the
command line, also where only the version is asked for.

## Main definitions

* `CommandLine.LogOptions`: How log records are to be written.
* `CommandLine.Job`: What a command has to do.
* `CommandLine.Invocation`: What a command line asks for.
* `CommandLine.Invocation.read`: Reading it.
-/

namespace NamePatterns

namespace CommandLine

/-- How log records are to be written, as far as that is still known. -/
structure LogOptions where
  /-- The name of the form. -/
  format : Option String
  /-- The name of the level. -/
  level : Option String
  deriving DecidableEq, Repr

/-- What a command has to do. A file or a kind whose name was left out is
    missing. -/
inductive Job where
  /-- To translate wildcards. -/
  | translate (wildcards : List String) (dashes json : Bool)
  /-- To show a configuration. -/
  | display (config : Option Path) (json : Bool)
  /-- To check names against a configuration. -/
  | check (names : List String) (kind : Option NameKind) (config : Option Path) (json : Bool)
  deriving DecidableEq, Repr

/-- What a command line asks for. -/
inductive Invocation where
  /-- The version. -/
  | version
  /-- Something to be done. -/
  | run (log : LogOptions) (job : Job)
  deriving DecidableEq, Repr

namespace Reading

/-- The value of an option, or what holds if it is not given. -/
def valueOf (r : Reading) (f : Flag) : Option String :=
  (r.value? f).getD f.otherwise

/-- The logging options. -/
def logOptions (r : Reading) : LogOptions :=
  ⟨r.valueOf logFormatFlag, r.valueOf logLevelFlag⟩

/-- The configuration file. -/
def config (r : Reading) : Option Path :=
  (r.valueOf configFlag).map Path.ofString

/-- The kind of names. -/
def kind (r : Reading) : Option NameKind :=
  (r.valueOf kindFlag).bind fun name => (NameKind.ofString name).toOption

/-- What a command has to do. -/
def job (r : Reading) : Command → Job
  | .translate => .translate r.operands (r.has dashesFlag) (r.has jsonFlag)
  | .display => .display r.config (r.has jsonFlag)
  | .check => .check r.operands r.kind r.config (r.has jsonFlag)

end Reading

/-- Refuses a command line with words that belong nowhere. -/
def checkLeftover (words : List String) : Except Stop Unit :=
  if words.isEmpty then .ok () else .error (.refused program (.unrecognized words))

namespace Invocation

/-- What a command line asks for. -/
def read (argv : List String) : Except Stop Invocation := do
  let top ← program.read argv
  match top.operands with
  | [] =>
    checkLeftover top.leftover
    if top.has versionFlag then return .version
    else .error (.refused program .noCommand)
  | name :: rest =>
    match Command.ofName? name with
    | none => .error (.refused program (.invalidChoice "command" name commandNames))
    | some command =>
      let sub ← command.spec.read rest
      checkLeftover (top.leftover ++ sub.leftover)
      if top.has versionFlag then return .version
      else return .run sub.logOptions (sub.job command)

end Invocation

end CommandLine

end NamePatterns
