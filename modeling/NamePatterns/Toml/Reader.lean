import NamePatterns.Toml.Namespace
import NamePatterns.Toml.Scalar

/-!
# TOML Keys and Values

Dotted keys, and values of any kind, at the start of a text.

Lists and inline tables hold values again, so the readers of values, list
items and members are bounded together, and each passes its bound on
diminished by one. A list and its first item share a character, its opening
bracket, so a value can take two steps per character and one more for the end
of the text.

## Main definitions

* `Toml.key`: A dotted key.
* `Toml.value`: A value.
* `Toml.keyValue`: A key, an equals sign and a value.
-/

namespace NamePatterns

namespace Toml

/-- Whether a character may stand in a key without quotes. -/
def isBareKey (c : Char) : Bool :=
  c.isAlphanum || c = '-' || c = '_'

/-- Whether a character may start a key. -/
def startsKey (c : Char) : Bool :=
  isBareKey c || c = '"' || c = '\''

/-- One part of a key. -/
def keyPart : Reader String := fun cs =>
  match cs with
  | '\'' :: rest => (literalString rest).map fun (s, rest) => (String.ofList s, rest)
  | '"' :: rest => (basicString rest).map fun (s, rest) => (String.ofList s, rest)
  | _ =>
    match cs.takeWhile isBareKey with
    | [] => fail cs .keyStart
    | part => .ok (String.ofList part, cs.dropWhile isBareKey)

/-- The parts of a key, and the blanks behind it. -/
def keyFrom : (fuel : Nat) → Reader Key
  | 0, cs => fail cs .keyStart
  | fuel + 1, cs => do
    let (part, rest) ← keyPart cs
    match skipBlanks rest with
    | '.' :: rest =>
      let (parts, rest) ← keyFrom fuel (skipBlanks rest)
      return (part :: parts, rest)
    | rest => return ([part], rest)

/-- A dotted key, and the blanks behind it. -/
def key : Reader Key := fun cs =>
  keyFrom (cs.length + 1) cs

/-- Skips blanks, line feeds and comments. -/
def skipSpace (inComment : Bool) : List Char → Except Refusal (List Char)
  | [] => .ok []
  | c :: cs =>
    if inComment then
      if c = '\n' then skipSpace false cs
      else if isForbidden false c then fail (c :: cs) (.invalidCharacter c)
      else skipSpace true cs
    else if isBlank c || c = '\n' then skipSpace false cs
    else if c = '#' then skipSpace true cs
    else .ok (c :: cs)

/-- A value that holds no others and is no string. -/
def scalar : Reader Value := fun cs =>
  match temporal? cs with
  | some r => r.map fun (t, rest) => (.temporal t, rest)
  | none =>
    match number? cs with
    | some r => r
    | none =>
      match special? cs with
      | some r => .ok r
      | none => fail cs .invalidValue

/-- A result at a place in the text. -/
def placed {α : Type} (rest : List Char) : Except Fault α → Except Refusal α
  | .ok a => .ok a
  | .error fault => fail rest fault

/-- Adds a member to an inline table, of whose members some are sealed. -/
def addMember (marks : Marks) (key : Key) (v : Value) (t : Table) : Except Fault Table :=
  if marks.isLocked key then .error (.immutable key)
  else
    match key.getLast? with
    | none => .ok t
    | some part => changeAt false (putNew (.duplicateInlineKey part) part v) key.dropLast t

mutual

/-- A value. -/
def value : (fuel : Nat) → Reader Value
  | 0, cs => fail cs .invalidValue
  | fuel + 1, cs =>
    match stringValue cs with
    | some r => r.map fun (s, rest) => (.text (String.ofList s), rest)
    | none =>
      match cs with
      | 't' :: 'r' :: 'u' :: 'e' :: rest => .ok (.bool true, rest)
      | 'f' :: 'a' :: 'l' :: 's' :: 'e' :: rest => .ok (.bool false, rest)
      | '[' :: rest => do
        match ← skipSpace false rest with
        | ']' :: rest => return (.list [], rest)
        | rest =>
          let (vs, rest) ← items fuel rest
          return (.list vs, rest)
      | '\x7b' :: rest => do
        match skipBlanks rest with
        | '\x7d' :: rest => return (.table [], rest)
        | rest =>
          let (t, rest) ← members fuel {} [] rest
          return (.table t, rest)
      | _ => scalar cs

/-- The items of a list that is not empty, and its end. -/
def items : (fuel : Nat) → Reader (List Value)
  | 0, cs => fail cs .unclosedList
  | fuel + 1, cs => do
    let (v, rest) ← value fuel cs
    match ← skipSpace false rest with
    | ']' :: rest => return ([v], rest)
    | ',' :: rest =>
      match ← skipSpace false rest with
      | ']' :: rest => return ([v], rest)
      | rest =>
        let (vs, rest) ← items fuel rest
        return (v :: vs, rest)
    | rest => fail rest .unclosedList

/-- The members of an inline table behind those it has already, and its
    end. -/
def members : (fuel : Nat) → Marks → Table → Reader Table
  | 0, _, _, cs => fail cs .unclosedInlineTable
  | fuel + 1, marks, t, cs => do
    let (k, rest) ← key cs
    match rest with
    | '=' :: rest =>
      let (v, rest) ← value fuel (skipBlanks rest)
      let t ← placed rest (addMember marks k v t)
      match skipBlanks rest with
      | '\x7d' :: rest => return (t, rest)
      | ',' :: rest => members fuel (marks.lock k v) t (skipBlanks rest)
      | rest => fail rest .unclosedInlineTable
    | rest => fail rest .equalsMissing

end

/-- A bound on the steps that reading a value of a text can take. -/
def valueBound (cs : List Char) : Nat :=
  2 * cs.length + 1

/-- A key, an equals sign and a value. -/
def keyValue : Reader (Key × Value) := fun cs => do
  let (k, rest) ← key cs
  match rest with
  | '=' :: rest =>
    let rest := skipBlanks rest
    let (v, rest) ← value (valueBound rest) rest
    return ((k, v), rest)
  | rest => fail rest .equalsMissing

end Toml

end NamePatterns
