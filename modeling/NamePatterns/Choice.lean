import NamePatterns.Text.Blank
import NamePatterns.Text.CaseFold

/-!
# Named Choices

The fixed sets of names that configuration and command line choose from.

A name is read without regard to blanks around it and to the case of its
letters. Letters outside ASCII need no folding: none of them folds to a text
made of the letters that these names use.

## Main definitions

* `ConfigFormat`, `NameKind`, `LogFormat`: The choices.
* `UnknownChoice`: The report on a name that is none of them.
* `ConfigFormat.ofString`, `NameKind.ofString`, `LogFormat.ofString`: Reading
  a choice.
-/

namespace NamePatterns

/-- The formats in which configuration files are written. -/
inductive ConfigFormat where
  /-- Sections of keys and values. -/
  | ini
  /-- Tables of typed values. -/
  | toml
  deriving DecidableEq, Repr

/-- The kinds of names that a configuration selects. -/
inductive NameKind where
  /-- Names of classes. -/
  | cls
  /-- Names of functions. -/
  | function
  deriving DecidableEq, Repr

/-- The forms in which log records are written. -/
inductive LogFormat where
  /-- Plain text. -/
  | text
  /-- JSON objects. -/
  | json
  deriving DecidableEq, Repr

/-- A name that is none of the choices for a subject. -/
structure UnknownChoice where
  /-- What was to be chosen. -/
  subject : String
  /-- The name as it was given. -/
  raw : String
  deriving DecidableEq, Repr

/-- The wording of the report. -/
def UnknownChoice.message (e : UnknownChoice) : String :=
  "Unknown " ++ e.subject ++ " '" ++ e.raw ++ "'"

/-- A name without blanks around it and with its ASCII letters in lower case. -/
def normalName (raw : String) : String :=
  String.ofList ((Text.trim raw.toList).map Text.lowerAscii)

namespace ConfigFormat

/-- The name of a format. -/
def name : ConfigFormat → String
  | ini => "ini"
  | toml => "toml"

/-- A format by its exact name. -/
def ofName? : String → Option ConfigFormat
  | "ini" => some ini
  | "toml" => some toml
  | _ => none

/-- A format by its name, which a dot may precede as in the ending of a file
    name. -/
def ofString (raw : String) : Except UnknownChoice ConfigFormat :=
  let name :=
    match (normalName raw).toList with
    | '.' :: cs => String.ofList cs
    | cs => String.ofList cs
  match ofName? name with
  | some f => .ok f
  | none => .error ⟨"config format", raw⟩

end ConfigFormat

namespace NameKind

/-- The name of a kind. -/
def name : NameKind → String
  | cls => "class"
  | function => "function"

/-- A kind by its name. -/
def ofString (raw : String) : Except UnknownChoice NameKind :=
  match normalName raw with
  | "class" => .ok cls
  | "function" => .ok function
  | _ => .error ⟨"name kind", raw⟩

end NameKind

namespace LogFormat

/-- The name of a form. -/
def name : LogFormat → String
  | text => "text"
  | json => "json"

/-- A form by its name. -/
def ofString (raw : String) : Except UnknownChoice LogFormat :=
  match normalName raw with
  | "text" => .ok text
  | "json" => .ok json
  | _ => .error ⟨"log format", raw⟩

end LogFormat

end NamePatterns
