import NamePatterns.Decimal.Text
import NamePatterns.Text.Integer
import NamePatterns.Value.Literal

/-!
# JSON Writing

Values as JSON text, on one line or over several.

Only what JSON forbids inside a string is escaped: quotes, backslashes and the
controls below U+0020. Everything else, whatever its script, stands for
itself. On one line, items are separated by a comma and a space; spread out,
each item has a line of its own, two spaces deeper than its container, and an
empty container keeps to one line.

Nothing is written on one line of a value that holds an integer which is too
long. Over several lines, the program only writes tables of texts, truth
values, nulls and lists of texts, so there is nothing to be refused.

## Main definitions

* `Json.escape`: A character inside a JSON string.
* `Json.quote`: A text as a JSON string.
* `Json.compact`: A value on one line, if it can be shown.
* `Json.spread`: A value over several lines.
-/

namespace NamePatterns

namespace Json

/-- The names of special numbers in JSON text. -/
def specialNames : Decimal.SpecialNames := ⟨"Infinity", "NaN"⟩

/-- A character inside a JSON string. -/
def escape (c : Char) : List Char :=
  if c == '"' then ['\\', '"']
  else if c == '\\' then ['\\', '\\']
  else if c == '\n' then ['\\', 'n']
  else if c == '\r' then ['\\', 'r']
  else if c == '\t' then ['\\', 't']
  else if c.toNat == 8 then ['\\', 'b']
  else if c.toNat == 12 then ['\\', 'f']
  else if c.toNat < 0x20 then '\\' :: 'u' :: Text.hex 4 c.toNat
  else [c]

/-- A text as a JSON string. -/
def quote (s : String) : List Char :=
  '"' :: s.toList.flatMap escape ++ ['"']

/-- A scalar as JSON text; a point in time is written as a string. -/
def scalar : Value → List Char
  | .null => ['n', 'u', 'l', 'l']
  | .bool true => ['t', 'r', 'u', 'e']
  | .bool false => ['f', 'a', 'l', 's', 'e']
  | .int n => (toString n).toList
  | .float x => (Decimal.floatText specialNames x).toList
  | .text s => quote s
  | .temporal t => quote t.literal
  | .list _ => ['[', ']']
  | .table _ => ['\x7b', '\x7d']

mutual

/-- A value as JSON text on one line. -/
def compactChars : Value → List Char
  | .list [] => ['[', ']']
  | .list (v :: vs) => '[' :: compactChars v ++ compactItems vs
  | .table [] => ['\x7b', '\x7d']
  | .table ((k, v) :: rest) =>
    '\x7b' :: quote k ++ ':' :: ' ' :: compactChars v ++ compactMembers rest
  | v => scalar v

/-- The items of a list after the first, and its end. -/
def compactItems : List Value → List Char
  | [] => [']']
  | v :: vs => ',' :: ' ' :: compactChars v ++ compactItems vs

/-- The members of a table after the first, and its end. -/
def compactMembers : List (String × Value) → List Char
  | [] => ['\x7d']
  | (k, v) :: rest => ',' :: ' ' :: quote k ++ ':' :: ' ' :: compactChars v ++ compactMembers rest

end

/-- A value as JSON text on one line, if it can be shown. -/
def compact (v : Value) : Except Text.WriteError String :=
  if v.isShowable then .ok (String.ofList (compactChars v)) else .error .tooManyDigits

/-- A new line at a depth of nesting. -/
def newLine (depth : Nat) : List Char :=
  '\n' :: List.replicate (2 * depth) ' '

mutual

/-- A value as JSON text over several lines, at a depth of nesting. -/
def spreadChars (depth : Nat) : Value → List Char
  | .list [] => ['[', ']']
  | .list (v :: vs) =>
    '[' :: newLine (depth + 1) ++ spreadChars (depth + 1) v ++ spreadItems depth vs
  | .table [] => ['\x7b', '\x7d']
  | .table ((k, v) :: rest) =>
    '\x7b' :: newLine (depth + 1) ++ quote k ++ ':' :: ' ' :: spreadChars (depth + 1) v
      ++ spreadMembers depth rest
  | v => scalar v

/-- The items of a list after the first, and its end. -/
def spreadItems (depth : Nat) : List Value → List Char
  | [] => newLine depth ++ [']']
  | v :: vs =>
    ',' :: newLine (depth + 1) ++ spreadChars (depth + 1) v ++ spreadItems depth vs

/-- The members of a table after the first, and its end. -/
def spreadMembers (depth : Nat) : List (String × Value) → List Char
  | [] => newLine depth ++ ['\x7d']
  | (k, v) :: rest =>
    ',' :: newLine (depth + 1) ++ quote k ++ ':' :: ' ' :: spreadChars (depth + 1) v
      ++ spreadMembers depth rest

end

/-- A value as JSON text over several lines. -/
def spread (v : Value) : String :=
  String.ofList (spreadChars 0 v)

end Json

end NamePatterns
