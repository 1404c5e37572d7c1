import NamePatterns.Choice
import NamePatterns.Value.Literal

/-!
# Log Records

What the library reports while it works.

A record names the logger it was written to, how grave it is, what happened,
and a few structured fields. The fields are built from loosely typed values by
one rule: what is absent is left out, a path must be text, a format must be
known, and the rest is turned into text or a truth value.

Any integer is a level, but not every level has a name. One without a name of
its own is called by its number, and a number that is too long is not written.
A record is made together with the name of its level, so there is none with
such a level: a record carries the proof that its level has a name.

## Main definitions

* `Log.Component`, `Log.Field`, `Log.Level`: What records are made of.
* `Log.Level.name`: The name of a level, if it has one.
* `Log.Fields`: The structured fields of a record.
* `Log.Record`: A record.
* `Log.Draft`, `Log.Draft.record?`: What a record is made from, and its making.
* `Log.Fields.ofValues`: Fields from loosely typed values.

## Theorems

* `Log.Level.name_cases`: The levels that have a name.
* `Log.Record.name_level`: The level of a record has the name of the record.
-/

namespace NamePatterns

namespace Log

/-- The parts of the program that write records. -/
inductive Component where
  /-- The reading of wildcards. -/
  | patterns
  /-- The reading of configurations. -/
  | config
  /-- The tracking of projects. -/
  | services
  /-- The command line. -/
  | cli
  deriving DecidableEq, Repr

namespace Component

/-- All components. -/
def all : List Component :=
  [patterns, config, services, cli]

/-- The name of a component. -/
def name : Component → String
  | patterns => "patterns"
  | config => "config"
  | services => "services"
  | cli => "cli"

/-- A component by its exact name. -/
def ofName? (name : String) : Option Component :=
  all.find? (·.name == name)

end Component

/-- The name of the logger that all others stand below. -/
def rootLogger : String := "pytestimp"

/-- The name of the logger of a component. -/
def Component.logger (c : Component) : String :=
  rootLogger ++ "." ++ c.name

/-- The structured fields of a record. -/
inductive Field where
  /-- The component that wrote the record. -/
  | component
  /-- The file that the record is about. -/
  | path
  /-- The format of that file. -/
  | format
  /-- The wildcards that the record is about. -/
  | pattern
  /-- Whether something changed. -/
  | changed
  /-- Anything else. -/
  | details
  deriving DecidableEq, Repr

namespace Field

/-- All fields, in the order in which they are written. -/
def all : List Field :=
  [component, path, format, pattern, changed, details]

/-- The name of a field. -/
def name : Field → String
  | component => "component"
  | path => "path"
  | format => "format"
  | pattern => "pattern"
  | changed => "changed"
  | details => "details"

end Field

/-- How grave a record is: the greater, the graver. -/
abbrev Level := Int

namespace Level

/-- Something of use for finding faults only. -/
def debug : Level := 10

/-- Something worth knowing. -/
def info : Level := 20

/-- Something unexpected. -/
def warning : Level := 30

/-- Something that failed. -/
def error : Level := 40

/-- Something that nothing survives. -/
def critical : Level := 50

/-- The name of a level; one without a name of its own is called by its
    number, if that can be written. -/
def name (level : Level) : Except Text.WriteError String :=
  if level = 0 then .ok "NOTSET"
  else if level = debug then .ok "DEBUG"
  else if level = info then .ok "INFO"
  else if level = warning then .ok "WARNING"
  else if level = error then .ok "ERROR"
  else if level = critical then .ok "CRITICAL"
  else (Text.ofInteger level).map ("Level " ++ ·)

/-- The name of a level in lower case. -/
def lower (name : String) : String :=
  String.ofList (name.toList.map Text.lowerAscii)

/-- A level has a name just if its number is short enough to be written, as those with a name of
    their own are. -/
theorem name_cases (level : Level) :
    (Text.IsShort level ∧ ∃ name, level.name = .ok name) ∨
    (¬Text.IsShort level ∧ level.name = .error .tooManyDigits) := by
  have hshort : ∀ known ∈ [0, debug, info, warning, error, critical], Text.IsShort known := by
    decide +kernel
  by_cases hknown : level ∈ [0, debug, info, warning, error, critical]
  · refine Or.inl ⟨hshort level hknown, ?_⟩
    simp only [List.mem_cons, List.not_mem_nil, or_false] at hknown
    rcases hknown with rfl | rfl | rfl | rfl | rfl | rfl <;> exact ⟨_, rfl⟩
  · simp only [List.mem_cons, List.not_mem_nil, or_false, not_or] at hknown
    obtain ⟨h0, hdebug, hinfo, hwarning, herror, hcritical⟩ := hknown
    simp only [name, if_neg h0, if_neg hdebug, if_neg hinfo, if_neg hwarning, if_neg herror,
      if_neg hcritical, Text.ofInteger]
    by_cases hlevel : Text.IsShort level
    · rw [if_pos hlevel]
      exact Or.inl ⟨hlevel, _, rfl⟩
    · rw [if_neg hlevel]
      exact Or.inr ⟨hlevel, rfl⟩

theorem isSome_name {level : Level} (h : Text.IsShort level) :
    level.name.toOption.isSome = true := by
  rcases level.name_cases with ⟨-, name, hname⟩ | ⟨hlong, -⟩
  · rw [hname]
    rfl
  · exact absurd h hlong

end Level

/-- The structured fields of a record, each with its value. -/
abbrev Fields := List (Field × Value)

/-- A record. -/
structure Record where
  /-- The logger it was written to. -/
  logger : String
  /-- How grave it is. -/
  level : Level
  /-- What happened. -/
  message : String
  /-- The structured fields. -/
  fields : Fields := []
  /-- Its level has a name. -/
  short : Text.IsShort level := by decide +kernel

/-- The name of the level of a record. -/
def Record.levelName (r : Record) : String :=
  r.level.name.toOption.get (Level.isSome_name r.short)

/-- The level of a record has the name of the record. -/
theorem Record.name_level (r : Record) : r.level.name = .ok r.levelName := by
  rcases r.level.name_cases with ⟨-, name, hname⟩ | ⟨hlong, -⟩
  · simp only [levelName, hname, Except.toOption, Option.get_some]
  · exact absurd r.short hlong

/-- What a record is made from. -/
structure Draft where
  /-- The logger it is written to. -/
  logger : String
  /-- How grave it is. -/
  level : Level
  /-- What happened. -/
  message : String
  /-- The structured fields. -/
  fields : Fields := []

/-- The record that is made from a draft, if its level has a name. -/
def Draft.record? (d : Draft) : Except Text.WriteError Record :=
  if short : Text.IsShort d.level then .ok ⟨d.logger, d.level, d.message, d.fields, short⟩
  else .error .tooManyDigits

/-- Why fields cannot be built from values. -/
inductive FieldError where
  /-- A path that is no text, by the name of its kind. -/
  | pathKind (kind : String)
  /-- A format that is not known. -/
  | format (e : UnknownChoice)
  /-- A value that is to be shown and cannot be. -/
  | number (e : Text.WriteError)
  deriving DecidableEq, Repr

/-- The wording of a field error. -/
def FieldError.message : FieldError → String
  | .pathKind kind => "expected str, bytes or os.PathLike object, not " ++ kind
  | .format e => e.message
  | .number e => e.message

/-- Whether a value counts as true: it is neither absent nor zero nor empty. -/
def truth : Value → Bool
  | .null => false
  | .bool b => b
  | .int n => n != 0
  | .float x => !(x == 0)
  | .text s => !s.isEmpty
  | .temporal _ => true
  | .list items => !items.isEmpty
  | .table members => !members.isEmpty

namespace Fields

/-- A member of a table, unless it is absent or null. -/
def given? (values : Table) (field : Field) : Option Value :=
  match values.find? field.name with
  | none | some .null => none
  | some v => some v

/-- The path among loosely typed values. -/
def path? (values : Table) : Except FieldError Fields :=
  match given? values .path with
  | none => .ok []
  | some (.text s) => .ok [(.path, .text s)]
  | some v => .error (.pathKind v.kindName)

/-- The format among loosely typed values. -/
def format? (values : Table) : Except FieldError Fields :=
  match given? values .format with
  | none => .ok []
  | some v => do
    let raw ← v.plain?.mapError .number
    let f ← (ConfigFormat.ofString raw).mapError .format
    return [(.format, .text f.name)]

/-- The wildcards among loosely typed values. -/
def pattern? (values : Table) : Except FieldError Fields :=
  match given? values .pattern with
  | none => .ok []
  | some v => (v.plain?.mapError .number).map fun s => [(.pattern, .text s)]

/-- Whether something changed, among loosely typed values. -/
def changed (values : Table) : Fields :=
  match given? values .changed with
  | none => []
  | some v => [(.changed, .bool (truth v))]

/-- The details among loosely typed values. They are kept if they are a table that is not
    empty. -/
def details (values : Table) : Fields :=
  match given? values .details with
  | some (.table (m :: ms)) => [(.details, .table (m :: ms))]
  | _ => []

/-- The fields of a record, from loosely typed values. What belongs to no field is dropped. -/
def ofValues (component : Component) (values : Table) : Except FieldError Fields := do
  let path ← path? values
  let format ← format? values
  let pattern ← pattern? values
  return (.component, .text component.name) :: path ++ format ++ pattern ++ changed values
    ++ details values

/-- The value of a field, if the record has it. -/
def find? (fields : Fields) (field : Field) : Option Value :=
  (List.find? (fun m => m.1 = field) fields).map (·.2)

/-- The fields as members of a table, in the order in which they are
    written. -/
def toTable (fields : Fields) : Table :=
  Field.all.filterMap fun field => (fields.find? field).map fun v => (field.name, v)

end Fields

end Log

end NamePatterns
