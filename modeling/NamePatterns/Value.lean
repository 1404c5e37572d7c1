/-!
# Values

The values that configuration documents and structured log fields are made
of.

A `Value` is a scalar, a point in time, a list or a table. Tables keep their
members in the order in which they were written; a key occurs once.

## Main definitions

* `Date`, `TimeOfDay`, `Temporal`: Dates, times and the two together.
* `Value`: A value of any kind.
* `Value.kindName`: What a value's kind is called in messages.
* `Table.find?`, `Table.insert`: Looking up and setting a member.
-/

namespace NamePatterns

/-- A calendar date. -/
structure Date where
  /-- The year. -/
  year : Nat
  /-- The month, from one. -/
  month : Nat
  /-- The day of the month, from one. -/
  day : Nat
  deriving DecidableEq, Repr

/-- A time of day. -/
structure TimeOfDay where
  /-- The hour. -/
  hour : Nat
  /-- The minute. -/
  minute : Nat
  /-- The second. -/
  second : Nat
  /-- The millionths of a second. -/
  micros : Nat
  deriving DecidableEq, Repr

/-- A date, a time, or both, with the distance from universal time if known. -/
inductive Temporal where
  /-- A date alone. -/
  | date (date : Date)
  /-- A time alone. -/
  | time (time : TimeOfDay)
  /-- A date and a time, and how many minutes ahead of universal time. -/
  | dateTime (date : Date) (time : TimeOfDay) (offset : Option Int)
  deriving DecidableEq, Repr

/-- A value of a document or of a log field. -/
inductive Value where
  /-- The absence of a value. -/
  | null
  /-- A truth value. -/
  | bool (b : Bool)
  /-- An integer. -/
  | int (n : Int)
  /-- A floating-point number. -/
  | float (x : Float)
  /-- A text. -/
  | text (s : String)
  /-- A point in time. -/
  | temporal (t : Temporal)
  /-- A list. -/
  | list (items : List Value)
  /-- A table: keys and their values, in the order written. -/
  | table (members : List (String × Value))
  deriving Inhabited, BEq

/-- The members of a table, in order. -/
abbrev Table := List (String × Value)

namespace Table

/-- The value of a key. -/
def find? (key : String) : Table → Option Value
  | [] => none
  | (k, v) :: rest => if k = key then some v else find? key rest

/-- Sets the value of a key: in place if the key is there, at the end if not. -/
def insert (key : String) (value : Value) : Table → Table
  | [] => [(key, value)]
  | (k, v) :: rest => if k = key then (k, value) :: rest else (k, v) :: insert key value rest

/-- The table made by setting members one after the other. -/
def ofMembers (members : List (String × Value)) : Table :=
  members.foldl (fun t m => t.insert m.1 m.2) []

end Table

namespace Value

/-- What the kind of a value is called in messages. -/
def kindName : Value → String
  | null => "NoneType"
  | bool _ => "bool"
  | int _ => "int"
  | float _ => "float"
  | text _ => "str"
  | temporal (.date _) => "date"
  | temporal (.time _) => "time"
  | temporal (.dateTime ..) => "datetime"
  | list _ => "list"
  | table _ => "dict"

/-- A text, or nothing. -/
def ofOption : Option String → Value
  | some s => text s
  | none => null

end Value

end NamePatterns
