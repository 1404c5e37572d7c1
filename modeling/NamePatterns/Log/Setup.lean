import NamePatterns.Log.Entry

/-!
# Log Setup

Which records are written, and in which form.

Loggers form a tree by the dots in their names: above a logger stand those of
the names in front of its dots that there are. Where two dots stand in a row,
the first of them counts only if there is a logger of the name that it ends.
A logger without a level of its own takes that of the next one above it that
has one, and above all of them stands a level that lets warnings pass. Once
the root of the library's loggers has a form, records of the loggers at and
below it are written in that form. Until then, and elsewhere, only the
messages of warnings and graver records are written, as they are.

What is asked for by name wins over the environment, and the environment over
the default. A form that is not known is refused before anything is changed; a
level that is not known is taken for the default one. A level that is asked for
by a number is told by its name, so a number that is too long to be written is
refused as well. The form is read first, and nothing is changed before both
have been read.

A record is made only if its level passes, and it is made before it is written.
So where the level of what is logged has no name, the one who logs it is told
so, but only if it would have passed.

An entry that has no text in the form that is asked for, such as one with a
moment beyond the calendar, leaves no line. Why it has none is told here by the
fault; the report of it that goes to the error stream is left out.

## Main definitions

* `Log.Setup`: Levels and forms.
* `Log.LevelChoice`: A level as it is asked for.
* `Log.Refusal`: Why a configuration is refused.
* `Log.Setup.configure`: Setting the level and the form.
* `Log.Setup.lineage`: A logger and those above it.
* `Log.Setup.effective`: The level that holds for a logger.
* `Log.Setup.write`: What is written of an entry.
* `Log.Setup.log`: What is written of what is logged.

## Theorems

* `Log.Setup.configure_handlers`: There is one form after configuring.
-/

namespace NamePatterns

namespace Log

/-- The names of the forms that can be asked for. -/
def formatNames : List String :=
  [LogFormat.text.name, LogFormat.json.name]

/-- The names of the levels that can be asked for, with the levels. -/
def namedLevels : List (String × Level) :=
  [("debug", Level.debug), ("info", Level.info), ("warning", Level.warning),
    ("error", Level.error)]

/-- The loggers below the root of the library, by name. -/
def childLoggers : List String :=
  [Component.cli.logger, Component.config.logger, Component.patterns.logger,
    Component.services.logger]

/-- Levels and forms. -/
structure Setup where
  /-- The forms in which the records of the library are written. -/
  handlers : List LogFormat := []
  /-- Whether the records of the library are passed on to what stands above
      it. -/
  propagates : Bool := true
  /-- The loggers that there are, with their levels; zero for those without a
      level of their own. -/
  levels : List (String × Level) := []
  deriving DecidableEq, Repr

/-- A level as it is asked for. -/
inductive LevelChoice where
  /-- By name. -/
  | named (name : String)
  /-- By number. -/
  | number (level : Level)
  /-- By a truth value, which counts as one or zero. -/
  | truth (b : Bool)
  deriving DecidableEq, Repr

/-- The part of the environment that concerns logging. -/
structure Environment where
  /-- The form that is asked for. -/
  format : Option String := none
  /-- The level that is asked for. -/
  level : Option String := none
  deriving DecidableEq, Repr

/-- What a configuration came to. -/
structure Resolved where
  /-- The form. -/
  format : LogFormat
  /-- The level. -/
  level : Level
  /-- The name of the level. -/
  levelName : String
  deriving DecidableEq, Repr

/-- Why a configuration is refused. -/
inductive Refusal where
  /-- A form that is not known. -/
  | format (e : UnknownChoice)
  /-- A level without a name. -/
  | level (e : Text.WriteError)
  deriving DecidableEq, Repr

/-- The wording of a refusal. -/
def Refusal.message : Refusal → String
  | .format e => e.message
  | .level e => e.message

/-- The level of a name, with that name. One that is not known stands for the default level. -/
def levelNamed (name : String) : Level × String :=
  match namedLevels.find? (·.1 = normalName name) with
  | some (name, level) => (level, name)
  | none => (Level.info, "info")

/-- A level with its name, as it is asked for. -/
def LevelChoice.resolve : LevelChoice → Except Text.WriteError (Level × String)
  | number level => level.name.map fun name => (level, Level.lower name)
  | truth b => .ok (if b then (1, "level true") else (0, "notset"))
  | named name => .ok (levelNamed name)

/-- An entry of the environment, unless it is empty. -/
def nonempty? (entry : Option String) : Option String :=
  entry.filter fun s => !s.isEmpty

/-- The form that is asked for. -/
def selectFormat (format : Option String) (env : Environment) : Except UnknownChoice LogFormat :=
  match format with
  | some name => LogFormat.ofString name
  | none =>
    match nonempty? env.format with
    | some name => LogFormat.ofString name
    | none => .ok .text

/-- The level that is asked for, with its name. -/
def selectLevel (level : Option LevelChoice) (env : Environment) :
    Except Text.WriteError (Level × String) :=
  match level with
  | some choice => choice.resolve
  | none =>
    match nonempty? env.level with
    | some name => (LevelChoice.named name).resolve
    | none => (LevelChoice.named "info").resolve

namespace Setup

/-- The level that a logger itself has. -/
def ownLevel (s : Setup) (logger : String) : Level :=
  ((s.levels.find? (·.1 = logger)).map (·.2)).getD 0

/-- Sets the level of a logger. -/
def setLevel (s : Setup) (level : Level) (logger : String) : Setup :=
  { s with levels := (logger, level) :: s.levels.filter fun m => m.1 != logger }

/-- Sets the level and the form of all loggers of the library. -/
def configure (s : Setup) (format : Option String) (level : Option LevelChoice)
    (env : Environment) : Except Refusal (Setup × Resolved) := do
  let form ← (selectFormat format env).mapError .format
  let (level, levelName) ← (selectLevel level env).mapError .level
  let s : Setup := { s with handlers := [form], propagates := false }
  return ((rootLogger :: childLoggers).foldl (fun s logger => s.setLevel level logger) s,
    ⟨form, level, levelName⟩)

/-- Whether there is a logger of a name. -/
def knows (s : Setup) (logger : String) : Bool :=
  s.levels.any (·.1 = logger)

/-- Makes a logger, unless there is one of that name. A new one has no level of its own. -/
def addLogger (s : Setup) (logger : String) : Setup :=
  if s.knows logger then s else { s with levels := (logger, 0) :: s.levels }

/-- The loggers above a name that is given back to front, nearest first. Behind a dot that no
    logger's name stands in front of, one more character is passed over, even if it is a dot. -/
def above (known : String → Bool) : (pass : Bool) → List Char → List String
  | _, [] => []
  | true, _ :: rest => above known false rest
  | false, c :: rest =>
    if c = '.' && !rest.isEmpty then
      let name := String.ofList rest.reverse
      if known name then name :: above known false rest else above known true rest
    else above known false rest

/-- A logger and those above it, nearest first. -/
def lineage (s : Setup) (logger : String) : List String :=
  logger :: above s.knows false logger.toList.reverse

/-- The level that holds for a logger. -/
def effective (s : Setup) (logger : String) : Level :=
  (((s.lineage logger).map s.ownLevel).find? (· != 0)).getD Level.warning

/-- Whether records of a level pass a logger. Nothing below level one does. -/
def isEnabled (s : Setup) (logger : String) (level : Level) : Bool :=
  0 < level && s.effective logger ≤ level

/-- Whether a logger is the root of the library's loggers or below it. -/
def isOurs (s : Setup) (logger : String) : Bool :=
  (s.lineage logger).contains rootLogger

/-- What is written of an entry, if anything. -/
def write (s : Setup) (e : Entry) : Except Fault String :=
  if !s.isEnabled e.record.logger e.record.level then .ok ""
  else
    match s.isOurs e.record.logger, s.handlers with
    | true, form :: forms => do
      let lines ← (form :: forms).mapM e.render
      return String.join (lines.map (· ++ "\n"))
    | _, _ =>
      .ok (if Level.warning ≤ e.record.level then e.record.message ++ "\n" else "")

/-- What is written of what is logged at a moment, if anything. -/
def log (s : Setup) (d : Draft) (moment : Int) (error : Option String) : Except Fault String :=
  if !s.isEnabled d.logger d.level then .ok ""
  else do
    let r ← d.record?.mapError .number
    s.write ⟨r, moment, error⟩

/-- Setting a level changes no form. -/
theorem setLevel_handlers (s : Setup) (level : Level) (loggers : List String) :
    (loggers.foldl (fun s logger => s.setLevel level logger) s).handlers = s.handlers := by
  induction loggers generalizing s with
  | nil => rfl
  | cons l ls ih => rw [List.foldl_cons, ih]; rfl

/-- There is one form after configuring, the one that was resolved. -/
theorem configure_handlers {s t : Setup} {format : Option String} {level : Option LevelChoice}
    {env : Environment} {r : Resolved} (h : s.configure format level env = .ok (t, r)) :
    t.handlers = [r.format] := by
  unfold configure at h
  cases hf : selectFormat format env with
  | error e => rw [hf] at h; cases h
  | ok form =>
    cases hl : selectLevel level env with
    | error e => rw [hf, hl] at h; cases h
    | ok choice =>
      rw [hf, hl] at h
      cases h
      exact setLevel_handlers _ _ _

end Setup

end Log

end NamePatterns
