import NamePatterns.Json.Writer

/-!
# Rows

Tables shown to the user.

In plain form every member of a table has a row: its key, filled up with
spaces to the longest key of the table, two spaces, and its value. What is
absent is a dash, and truth values are words. As JSON everything is one
document.

## Main definitions

* `Rows.shown`: A value in a row.
* `Rows.ofTable`: The rows of a table.
* `Rows.render`: What is shown of tables.
-/

namespace NamePatterns

namespace Rows

/-- A value in a row. -/
def shown : Value → String
  | .null => "-"
  | .bool true => "yes"
  | .bool false => "no"
  | v => v.plain

/-- The length of the longest key. -/
def keyWidth (t : Table) : Nat :=
  (t.map fun m => m.1.length).foldl max 0

/-- One row. -/
def row (width : Nat) (m : String × Value) : String :=
  m.1 ++ String.ofList (List.replicate (width - m.1.length) ' ') ++ "  " ++ shown m.2

/-- The rows of a table. -/
def ofTable (t : Table) : List String :=
  t.map (row (keyWidth t))

/-- What is shown of a table. -/
def renderTable (asJson : Bool) (t : Table) : List String :=
  if asJson then [Json.spread (.table t)] else ofTable t

/-- What is shown of several tables. -/
def render (asJson : Bool) (ts : List Table) : List String :=
  if asJson then [Json.spread (.list (ts.map .table))] else ts.flatMap ofTable

end Rows

end NamePatterns
