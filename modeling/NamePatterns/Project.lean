import NamePatterns.Config.Held
import NamePatterns.Config.Load

/-!
# Projects

A project's configuration, and whether it changes.

A project knows where its configuration file is and holds the configuration it
read last. Reading the file again tells whether what is in force has changed:
holding no configuration is the same as holding the default. Each reading
writes one record.

An integer that is too long makes a reading fail, and so does a path that
nothing can be at. A new path is kept all the same, since it is set before the
file is read. What was held before is held on, with one exception: the path is
looked at once more for the record, when what was read from a file that was
given is held already.

## Main definitions

* `Project`: A project.
* `Project.Failure`: Why it cannot be read.
* `Project.resolved`: Where its configuration file is.
* `Project.effective`: The configuration in force.
* `Project.create`: A project whose file is read for the first time.
* `Project.refresh`, `Project.refreshFromText`, `Project.setPath`: Reading
  again.

## Theorems

* `Project.hold_effective`: What is in force after a reading.
-/

namespace NamePatterns

/-- A project. -/
structure Project where
  /-- The directory that a relative path is followed from. -/
  root : Path
  /-- The path of the configuration file, as it was given. -/
  configPath : Path
  /-- The configuration read last, if there was one. -/
  held : Option Held := none
  deriving DecidableEq, Repr

namespace Project

/-- Why a project cannot be read. -/
inductive Failure where
  /-- Nothing can be where its configuration file should be. -/
  | unusable (e : UnusablePath)
  /-- An integer is too long to be converted. -/
  | tooManyDigits (e : Text.TooManyDigits)
  deriving DecidableEq, Repr

/-- The wording of a failure. -/
def Failure.message : Failure → String
  | unusable e => e.message
  | tooManyDigits e => e.message

/-- Where the configuration file of a project is. -/
def resolved (fs : Files) (p : Project) : Except UnusablePath Path :=
  fs.locate (p.root.join p.configPath)

/-- The configuration in force. -/
def effective (p : Project) : Config :=
  match p.held with
  | some h => h.config
  | none => .default

/-- A project that holds what was read. -/
def hold (p : Project) (c : Option Config) : Project :=
  { p with held := c.map fun c => ⟨c, none, none⟩ }

/-- What is in force after a reading. -/
theorem hold_effective (p : Project) (c : Option Config) :
    (p.hold c).effective = c.getD .default := by
  cases c <;> rfl

/-- The configuration in the file of a project, or in a file that is given. -/
def readFile (fs : Files) (file : Option Path) (p : Project) :
    Logged Failure (Option Config) := do
  let path ← Logged.liftExcept ((file.elim (p.resolved fs) .ok).mapError .unusable)
  (Config.loadOrNone fs (some path)).mapError .tooManyDigits

/-- A project whose file is read for the first time. -/
def create (fs : Files) (root configPath : Path) : Logged Failure Project := do
  let p : Project := ⟨root, configPath, none⟩
  return p.hold (← p.readFile fs none)

/-- The report on a reading. -/
def refreshedRecord (path : Path) (changed : Bool) : Log.Record where
  logger := Log.Component.services.logger
  level := Log.Level.debug
  message := "Refreshed pytest config from " ++ path.text
  fields :=
    [(.component, .text Log.Component.services.name),
      (.path, .text path.text),
      (.changed, .bool changed)]

/-- Whether what is in force changes when a project holds what was read. -/
def changes (p : Project) (c : Option Config) : Bool :=
  !(c.getD .default).agrees p.effective

/-- Takes over what a reading results in: the project, and whether what is in
    force has changed. -/
def takeOver (fs : Files) (p : Project) (reading : Logged Failure (Option Config)) :
    Project × Logged Failure Bool :=
  match reading.outcome with
  | .error e => (p, ⟨reading.records, .error e⟩)
  | .ok c =>
    match p.resolved fs with
    | .error e => (p.hold c, ⟨reading.records, .error (.unusable e)⟩)
    | .ok path =>
      let changed := p.changes c
      (p.hold c, ⟨reading.records ++ [refreshedRecord path changed], .ok changed⟩)

/-- Reads the configuration again, from its file or from a file that is
    given. -/
def refresh (fs : Files) (file : Option Path) (p : Project) : Project × Logged Failure Bool :=
  p.takeOver fs (p.readFile fs file)

/-- The configuration in contents that stand for a file, if it is valid. -/
def readContent (content : Content) (format : ConfigFormat) (path : Path) :
    Logged Failure (Option Config) :=
  match Config.parse content format (some path) with
  | .ok c => ⟨[], .ok (some c)⟩
  | .error (.invalid e) =>
    ⟨[Config.ignoredRecord .services (some path) (some format) e], .ok none⟩
  | .error (.tooManyDigits e) => Logged.fail (.tooManyDigits e)

/-- Reads the configuration again, from contents that stand for its file. -/
def refreshFromText (fs : Files) (content : Content) (format : ConfigFormat) (p : Project) :
    Project × Logged Failure Bool :=
  p.takeOver fs do
    let path ← Logged.liftExcept ((p.resolved fs).mapError .unusable)
    readContent content format path

/-- Sets the path of the configuration file and reads the configuration
    again. -/
def setPath (fs : Files) (path : Path) (p : Project) : Project × Logged Failure Bool :=
  refresh fs none { p with configPath := path }

/-- The held configuration, or a fresh default if there is none. -/
def inForce (p : Project) : Held :=
  p.held.getD ⟨.default, none, none⟩

/-- A project after its configuration in force has been used. -/
def used (p : Project) (h : Held) : Project :=
  { p with held := p.held.map fun _ => h }

end Project

end NamePatterns
