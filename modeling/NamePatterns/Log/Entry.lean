import NamePatterns.Json.Writer
import NamePatterns.Log.Record
import NamePatterns.Log.Timestamp

/-!
# Log Entries

Records as they are written.

An entry is a record together with the moment it was made and, if it is about
an error, the text of that error. As plain text it shows the level and the
message, and the error on further lines. As JSON it is one object on one line
that shows everything.

Plain text can be had of every entry, as it shows neither the moment nor the
fields. There is no line as JSON if the moment has no text, or if a field holds
an integer that is too long to be written.

## Main definitions

* `Log.Entry`: A record as it is written.
* `Log.Fault`: Why an entry cannot be written.
* `Log.Entry.textLine`, `Log.Entry.jsonLine`: The two forms.
* `Log.Entry.render`: An entry in the form that is asked for.

## Theorems

* `Log.Entry.isShowable_payload`: Only the fields can keep an entry from being
  written as JSON.
-/

namespace NamePatterns

namespace Log

/-- A record as it is written. -/
structure Entry where
  /-- The record. -/
  record : Record
  /-- The moment it was made. -/
  moment : Int := 0
  /-- The text of the error it is about. -/
  error : Option String := none

/-- Why an entry cannot be written. -/
inductive Fault where
  /-- Its moment has no text. -/
  | moment (e : Timestamp.Fault)
  /-- An integer is too long to be written. -/
  | number (e : Text.WriteError)
  deriving DecidableEq, Repr

/-- The wording of a fault. -/
def Fault.message : Fault → String
  | .moment e => e.message
  | .number e => e.message

namespace Entry

/-- An error as text: its kind, and its message unless that is empty. -/
def errorText (kind message : String) : String :=
  if message.isEmpty then kind else kind ++ ": " ++ message

/-- An entry as plain text. -/
def textLine (e : Entry) : String :=
  let line := "[" ++ e.record.levelName ++ "] " ++ e.record.message
  match e.error with
  | none => line
  | some text =>
    if line.toList.getLast? = some '\n' then line ++ text else line ++ "\n" ++ text

/-- What an entry shows as JSON, given the text of its moment. -/
def payload (e : Entry) (timestamp : String) : Table :=
  [("timestamp", .text timestamp),
    ("level", .text (Level.lower e.record.levelName)),
    ("message", .text e.record.message),
    ("logger", .text e.record.logger)]
  ++ e.record.fields.toTable
  ++ (e.error.map fun text => ("exc_info", Value.text text)).toList

/-- Of what an entry shows as JSON, only the fields can keep it from being written. All else is
    text. -/
theorem isShowable_payload (e : Entry) (time : String) :
    Value.isShowable (.table (e.payload time))
      = Value.isShowable (.table e.record.fields.toTable) := by
  have herror : ∀ m ∈ (e.error.map fun text => ("exc_info", Value.text text)).toList,
      m.2.isShowable = true := by
    intro m hm
    obtain ⟨text, -, rfl⟩ := Option.map_eq_some_iff.mp (Option.mem_toList.mp hm)
    rfl
  rw [Bool.eq_iff_iff, Value.isShowable, Value.isShowable, Value.membersShowable_iff,
    Value.membersShowable_iff, payload]
  simp only [List.cons_append, List.nil_append, List.forall_mem_cons, List.forall_mem_append,
    Value.isShowable, true_and]
  exact and_iff_left herror

/-- An entry as JSON. -/
def jsonLine (e : Entry) : Except Fault String := do
  let timestamp ← (Timestamp.text e.moment).mapError .moment
  (Json.compact (.table (e.payload timestamp))).mapError .number

/-- An entry in the form that is asked for. -/
def render (form : LogFormat) (e : Entry) : Except Fault String :=
  match form with
  | .text => .ok e.textLine
  | .json => e.jsonLine

end Entry

end Log

end NamePatterns
