import NamePatterns.Decimal.Text
import NamePatterns.Text.Quoted
import NamePatterns.Value

/-!
# Literals

Values as they are shown inside messages and in plain output.

Texts are quoted, lists stand in square brackets and tables in braces, and
points in time are written as calls that name their parts. Seconds and their
fractions are left out where they are zero. The plain form of a value differs
from the literal for texts only, which it leaves unquoted.

An integer that is too long is not written, and so nothing that holds one is.
The literal says what would be written of it.

## Main definitions

* `Value.literal`: A value as a literal.
* `Value.plain`: A value in its plain form.
* `Value.isShowable`: Whether a value can be shown at all.
* `Value.plain?`: A value in its plain form, if it can be shown.

## Theorems

* `Value.areShowable_iff`, `Value.membersShowable_iff`: A list or a table can be
  shown if all that it holds can be.
-/

namespace NamePatterns

/-- The names of special numbers in literals. -/
def literalNames : Decimal.SpecialNames := ⟨"inf", "nan"⟩

/-- Numbers between parentheses behind a name, and a last argument. -/
def callText (name : String) (args : List Nat) (last : List String) : String :=
  name ++ "(" ++ ", ".intercalate (args.map toString ++ last) ++ ")"

namespace TimeOfDay

/-- The parts of a time that a literal names: seconds and their fractions only
    where they are not zero. -/
def shownParts (t : TimeOfDay) : List Nat :=
  if t.micros != 0 then [t.hour, t.minute, t.second, t.micros]
  else if t.second != 0 then [t.hour, t.minute, t.second]
  else [t.hour, t.minute]

end TimeOfDay

/-- A distance from universal time as a literal, in whole days and seconds. -/
def offsetLiteral (minutes : Int) : String :=
  if minutes == 0 then "datetime.timezone.utc"
  else
    let seconds := minutes * 60
    let days := seconds.fdiv 86400
    let rest := seconds.fmod 86400
    let parts := (if days == 0 then [] else ["days=" ++ toString days])
      ++ (if rest == 0 then [] else ["seconds=" ++ toString rest])
    "datetime.timezone(datetime.timedelta(" ++ ", ".intercalate parts ++ "))"

/-- A point in time as a literal. -/
def Temporal.literal : Temporal → String
  | .date d => callText "datetime.date" [d.year, d.month, d.day] []
  | .time t => callText "datetime.time" t.shownParts []
  | .dateTime d t offset =>
    callText "datetime.datetime" ([d.year, d.month, d.day] ++ t.shownParts)
      (match offset with
        | none => []
        | some minutes => ["tzinfo=" ++ offsetLiteral minutes])

namespace Value

mutual

/-- A value as a literal. -/
def literal : Value → String
  | null => "None"
  | bool true => "True"
  | bool false => "False"
  | int n => toString n
  | float x => Decimal.floatText literalNames x
  | text s => Text.quoted s
  | temporal t => t.literal
  | list items => "[" ++ ", ".intercalate (literals items) ++ "]"
  | table members => "\x7b" ++ ", ".intercalate (memberLiterals members) ++ "\x7d"

/-- The literals of the items of a list. -/
def literals : List Value → List String
  | [] => []
  | v :: vs => literal v :: literals vs

/-- The members of a table as literals. -/
def memberLiterals : List (String × Value) → List String
  | [] => []
  | (k, v) :: rest => (Text.quoted k ++ ": " ++ literal v) :: memberLiterals rest

end

/-- A value in its plain form: a text as it is, all else as a literal. -/
def plain : Value → String
  | text s => s
  | v => literal v

mutual

/-- Whether a value can be shown: it holds no integer that is too long. -/
def isShowable : Value → Bool
  | int n => Text.IsShort n
  | list items => areShowable items
  | table members => membersShowable members
  | null | bool _ | float _ | text _ | temporal _ => true

/-- Whether the items of a list can be shown. -/
def areShowable : List Value → Bool
  | [] => true
  | v :: vs => v.isShowable && areShowable vs

/-- Whether the members of a table can be shown. -/
def membersShowable : List (String × Value) → Bool
  | [] => true
  | (_, v) :: rest => v.isShowable && membersShowable rest

end

theorem areShowable_iff {vs : List Value} :
    areShowable vs = true ↔ ∀ v ∈ vs, v.isShowable = true := by
  induction vs with
  | nil => exact iff_of_true rfl nofun
  | cons v vs ih => rw [areShowable, Bool.and_eq_true, ih, List.forall_mem_cons]

theorem membersShowable_iff {ms : Table} :
    membersShowable ms = true ↔ ∀ m ∈ ms, m.2.isShowable = true := by
  induction ms with
  | nil => exact iff_of_true rfl nofun
  | cons m ms ih => rw [membersShowable, Bool.and_eq_true, ih, List.forall_mem_cons]

/-- A value in its plain form, if it can be shown. -/
def plain? (v : Value) : Except Text.WriteError String :=
  if v.isShowable then .ok v.plain else .error .tooManyDigits

end Value

end NamePatterns
