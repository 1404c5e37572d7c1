import NamePatterns.Toml.Error
import NamePatterns.Value

/-!
# Namespaces of a TOML Document

The tables of a document under their dotted keys, and what may still be done
to them.

A dotted key leads from table to table, and through a list of tables to the
last of its items; tables that are missing on the way are made. What a
document has declared is kept beside its tables as marks on keys: a declared
table cannot be declared a second time, and a sealed value, which was written
inline, cannot be changed at all, nor can anything below it.

## Main definitions

* `Toml.changeAt`: A change of the table behind a dotted key.
* `Toml.putNew`, `Toml.appendItem`: Adding a member, and an item to a list of
  tables.
* `Toml.Marks`: What is declared and what is sealed.
-/

namespace NamePatterns

namespace Toml

/-- Changes the table behind a dotted key. Missing tables are made; a list
    stands for the last of its items if the key may lead through lists. -/
def changeAt (throughLists : Bool) (change : Table → Except Fault Table) :
    Key → Table → Except Fault Table
  | [], t => change t
  | k :: ks, t =>
    match t.find? k with
    | none => do
      return t.insert k (.table (← changeAt throughLists change ks []))
    | some (.table inner) => do
      return t.insert k (.table (← changeAt throughLists change ks inner))
    | some (.list items) =>
      match throughLists, items.getLast? with
      | true, some (.table inner) => do
        let changed ← changeAt throughLists change ks inner
        return t.insert k (.list (items.dropLast ++ [.table changed]))
      | _, _ => .error .overwrite
    | some _ => .error .overwrite

/-- A table with a new member; one that is there is not overwritten. -/
def putNew (taken : Fault) (part : String) (v : Value) (t : Table) : Except Fault Table :=
  match t.find? part with
  | none => .ok (t.insert part v)
  | some _ => .error taken

/-- A table in which a list of tables has an empty one more at its end. -/
def appendItem (part : String) (t : Table) : Except Fault Table :=
  match t.find? part with
  | none => .ok (t.insert part (.list [.table []]))
  | some (.list items) => .ok (t.insert part (.list (items ++ [.table []])))
  | some _ => .error .overwrite

/-- What is declared in a document, and what is sealed. -/
structure Marks where
  /-- Keys that cannot be declared as tables. -/
  declared : List Key := []
  /-- Keys that cannot be declared as tables once another table starts. -/
  awaiting : List Key := []
  /-- Keys whose values cannot be changed, at any depth. -/
  locked : List Key := []
  deriving Repr

namespace Marks

/-- Whether a key is declared. -/
def isDeclared (m : Marks) (key : Key) : Bool :=
  m.declared.contains key

/-- Whether the value of a key, or a value above it, is sealed. -/
def isLocked (m : Marks) (key : Key) : Bool :=
  m.locked.any (·.isPrefixOf key)

/-- Marks a key as declared. -/
def declare (m : Marks) (key : Key) : Marks :=
  { m with declared := key :: m.declared }

/-- Marks a key as declared as soon as another table starts. -/
def await (m : Marks) (key : Key) : Marks :=
  { m with awaiting := key :: m.awaiting }

/-- Another table starts. -/
def settle (m : Marks) : Marks :=
  { m with declared := m.awaiting ++ m.declared, awaiting := [] }

/-- Seals the value of a key if it was written inline. -/
def lock (m : Marks) (key : Key) : Value → Marks
  | .list _ | .table _ => { m with locked := key :: m.locked }
  | _ => m

/-- Forgets all marks on a key and below it. -/
def forget (m : Marks) (key : Key) : Marks where
  declared := m.declared.filter fun k => !key.isPrefixOf k
  awaiting := m.awaiting
  locked := m.locked.filter fun k => !key.isPrefixOf k

end Marks

end Toml

end NamePatterns
