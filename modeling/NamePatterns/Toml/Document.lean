import NamePatterns.Toml.Reader

/-!
# TOML Documents

A text as a table.

A document is read one statement a line. A statement opens a table, opens an
item of a list of tables, or sets a key below the table opened last. Where the
head of a table is at fault in two ways, the fault of its key wins over that
of its bracket.

## Main definitions

* `Toml.Draft`: A document as far as it has been read.
* `Toml.openTable`, `Toml.openItem`, `Toml.setKey`: The statements.
* `Toml.parse`: A text as a table.
-/

namespace NamePatterns

namespace Toml

/-- A document as far as it has been read. -/
structure Draft where
  /-- Its tables. -/
  tables : Table := []
  /-- What is declared and sealed in it. -/
  marks : Marks := {}
  /-- The key of the table that statements add to. -/
  head : Key := []

namespace Draft

/-- Opens a table. -/
def openTable (d : Draft) (key : Key) : Except Fault Draft :=
  if d.marks.isDeclared key || d.marks.isLocked key then .error (.declaredTwice key)
  else do
    let tables ← changeAt true (fun t => .ok t) key d.tables
    return ⟨tables, d.marks.declare key, key⟩

/-- Opens a new item of a list of tables. Marks on the item before it do not
    concern the new one. -/
def openItem (d : Draft) (key : Key) : Except Fault Draft :=
  if d.marks.isLocked key then .error (.immutable key)
  else
    match key.getLast? with
    | none => .ok d
    | some part => do
      let tables ← changeAt true (appendItem part) key.dropLast d.tables
      return ⟨tables, (d.marks.forget key).declare key, key⟩

/-- Marks the tables that a dotted key leads through below `above`. -/
def passThrough (above : Key) : Key → Marks → Except Fault Marks
  | part :: next :: parts, marks =>
    let through := above ++ [part]
    if marks.isDeclared through then .error (.redefinesTable through)
    else passThrough through (next :: parts) (marks.await through)
  | _, marks => .ok marks

/-- Sets a key below the table opened last. -/
def setKey (d : Draft) (key : Key) (v : Value) : Except Fault Draft := do
  let marks ← passThrough d.head key d.marks
  let above := d.head ++ key.dropLast
  if marks.isLocked above then .error (.immutable above)
  else
    match key.getLast? with
    | none => return d
    | some part =>
      let tables ← changeAt true (putNew .overwrite part v) above d.tables
      return ⟨tables, marks.lock (d.head ++ key) v, d.head⟩

end Draft

/-- The head of a table, after its first bracket. -/
def tableHead (d : Draft) : Reader Draft := fun cs => do
  let d := { d with marks := d.marks.settle }
  match cs with
  | '[' :: rest =>
    let (k, rest) ← key (skipBlanks rest)
    let d ← placed rest (d.openItem k)
    match rest with
    | ']' :: ']' :: rest => return (d, rest)
    | _ => fail rest .listEnd
  | _ =>
    let (k, rest) ← key (skipBlanks cs)
    let d ← placed rest (d.openTable k)
    match rest with
    | ']' :: rest => return (d, rest)
    | _ => fail rest .tableEnd

/-- A statement at the start of a line that is not blank; a comment states
    nothing. -/
def statement (d : Draft) : Reader Draft := fun cs =>
  match cs with
  | [] => .ok (d, [])
  | '[' :: rest => tableHead d rest
  | '#' :: rest => .ok (d, '#' :: rest)
  | c :: rest =>
    if startsKey c then do
      let ((k, v), rest) ← keyValue (c :: rest)
      return (← placed rest (d.setKey k v), rest)
    else fail (c :: rest) .invalidStatement

/-- Reads the lines of a document. -/
def statements : (fuel : Nat) → Draft → List Char → Except Refusal Draft
  | 0, d, _ => .ok d
  | fuel + 1, d, cs =>
    match skipBlanks cs with
    | [] => .ok d
    | '\n' :: rest => statements fuel d rest
    | rest => do
      let (d, rest) ← statement d rest
      match ← skipComment (skipBlanks rest) with
      | [] => return d
      | '\n' :: rest => statements fuel d rest
      | rest => fail rest .afterStatement

/-- A text whose lines end in single line feeds. -/
def withFeeds : List Char → List Char
  | '\r' :: '\n' :: cs => '\n' :: withFeeds cs
  | c :: cs => c :: withFeeds cs
  | [] => []

/-- A text as a table. -/
def parse (text : List Char) : Except Refusal Table := do
  let text := withFeeds text
  return (← statements (text.length + 1) {} text).tables

end Toml

end NamePatterns
