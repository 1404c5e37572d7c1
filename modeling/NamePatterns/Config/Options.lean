import NamePatterns.Config.Defaults
import NamePatterns.Config.Fault
import NamePatterns.Text.Quoted
import NamePatterns.Text.Integer
import NamePatterns.Value.Literal

/-!
# Options

The wildcards in a table of typed values.

A key may be absent, null, a text, or a list of texts, which are joined by
spaces. Every other value is a fault. The faults of both keys are reported
together, each with an excerpt of the value.

## Main definitions

* `Patterns`: The wildcards for classes and for functions, where given.
* `Options.wildcards?`: The wildcards that a value stands for.
* `Options.validate`: The wildcards in a table.
* `OptionsError`: What is wrong with a table.

## Theorems

* `Options.wildcards?_error`: The value at fault is the one that was given.
-/

namespace NamePatterns

/-- The wildcards for classes and for functions, where given. -/
structure Patterns where
  /-- The wildcards for names of classes. -/
  classes : Option String := none
  /-- The wildcards for names of functions. -/
  functions : Option String := none
  deriving DecidableEq, Repr

/-- The wildcards for a kind of names, where given. -/
def Patterns.get (p : Patterns) : NameKind → Option String
  | .cls => p.classes
  | .function => p.functions

/-- A value as it is shown in reports. -/
def Value.shown (v : Value) : String :=
  if v.isShowable then String.ofList (Text.excerpt v.literal.toList)
  else "<unprintable " ++ v.kindName ++ " object>"

/-- What is wrong with a table of options. -/
inductive OptionsError where
  /-- It is no table. -/
  | notTable (v : Value)
  /-- The value of one key, or of both, is neither a text nor a list of
      texts. -/
  | wrongValues (first : NameKind × Value) (others : List (NameKind × Value))

namespace OptionsError

/-- The end of the report on one fault: the value and where to read more. -/
def evidence (kind : String) (v : Value) : String :=
  " [type=" ++ kind ++ ", input_value=" ++ v.shown ++ ", input_type=" ++ v.kindName ++ "]\n"
    ++ "    For further information visit https://errors.pydantic.dev/2.14/v/" ++ kind

/-- The report on the value of a key. -/
def wrongValue (fault : NameKind × Value) : String :=
  fault.1.key ++ "\n  Value error, " ++ fieldTypeMessage fault.1.key
    ++ evidence "value_error" fault.2

/-- The first line of a report on a number of faults. -/
def heading (count : Nat) : String :=
  toString count ++ (if count = 1 then " validation error" else " validation errors")
    ++ " for PytestIniOptionsModel"

/-- The wording of the report. -/
def message : OptionsError → String
  | notTable v =>
    heading 1
      ++ "\n  Input should be a valid dictionary or instance of PytestIniOptionsModel"
      ++ evidence "model_type" v
  | wrongValues first others =>
    "\n".intercalate (heading (others.length + 1) :: (first :: others).map wrongValue)

end OptionsError

namespace Options

/-- The texts of a list that holds only texts. -/
def texts? : List Value → Option (List String)
  | [] => some []
  | .text s :: vs => (texts? vs).map (s :: ·)
  | _ :: _ => none

/-- The wildcards that a value stands for, or the value itself if it stands
    for none. -/
def wildcards? : Value → Except Value (Option String)
  | .null => .ok none
  | .text s => .ok (some s)
  | .list vs =>
    match texts? vs with
    | some ss => .ok (some (" ".intercalate ss))
    | none => .error (.list vs)
  | v => .error v

/-- The value at fault is the one that was given. -/
theorem wildcards?_error {v w : Value} (h : wildcards? v = .error w) : w = v := by
  unfold wildcards? at h
  split at h
  · cases h
  · cases h
  · split at h <;> cases h
    rfl
  · cases h
    rfl

/-- The wildcards of a key of a table; a key that is absent is like one that
    is null. -/
def field? (t : Table) (kind : NameKind) : Except Value (Option String) :=
  wildcards? ((t.find? kind.key).getD .null)

/-- The wildcards in a table. -/
def ofTable (t : Table) : Except OptionsError Patterns :=
  match field? t .cls, field? t .function with
  | .ok classes, .ok functions => .ok ⟨classes, functions⟩
  | .error v, .ok _ => .error (.wrongValues (.cls, v) [])
  | .ok _, .error w => .error (.wrongValues (.function, w) [])
  | .error v, .error w => .error (.wrongValues (.cls, v) [(.function, w)])

/-- The wildcards in a value that has to be a table. -/
def validate : Value → Except OptionsError Patterns
  | .table t => ofTable t
  | v => .error (.notTable v)

end Options

end NamePatterns
