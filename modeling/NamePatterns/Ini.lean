import NamePatterns.Text.Blank
import NamePatterns.Text.Lines
import NamePatterns.Text.Quoted

/-!
# INI Documents

Documents of named sections that hold keys and values.

Each line is read on its own. A line that is blank, or starts with a comment
sign behind blanks, says nothing. A line in brackets opens a section. A line
that starts with neither a blank nor a bracket sets a key: the first equals
sign divides key and value, or the first colon if there is no equals sign or
the colon comes first. Every other line continues the value of the key above
it, and values of several lines keep their line feeds.

Faults of single lines are found before sections and keys are put together, so
they win over duplicates and over keys outside all sections.

## Main definitions

* `Ini.Line`, `Ini.readLine`: What a line says.
* `Ini.Fault`, `Ini.ParseError`: What is wrong, and on which line.
* `Ini.Item`, `Ini.collect`: Sections and keys in a row.
* `Ini.Document`, `Ini.parse`: A text as a document.
* `Ini.Document.get?`: The value of a key.
-/

namespace NamePatterns

namespace Ini

/-- What is wrong with a document. -/
inductive Fault where
  /-- A section without a name. -/
  | emptySectionName
  /-- A value goes on where no value is. -/
  | unexpectedContinuation
  /-- A line that neither divides into key and value nor is anything else. -/
  | unexpectedLine (line : List Char)
  /-- A key outside all sections. -/
  | noSection
  /-- A second section of one name. -/
  | duplicateSection (name : String)
  /-- A second value for one key of a section. -/
  | duplicateName (name : String)
  deriving DecidableEq, Repr

/-- The wording of a fault. -/
def Fault.message : Fault → String
  | .emptySectionName => "empty section name"
  | .unexpectedContinuation => "unexpected value continuation"
  | .unexpectedLine line => "unexpected line: " ++ String.ofList (Text.quote line)
  | .noSection => "no section header defined"
  | .duplicateSection name => "duplicate section " ++ Text.quoted name
  | .duplicateName name => "duplicate name " ++ Text.quoted name

/-- A fault and its line, from one. -/
structure ParseError where
  /-- The line. -/
  line : Nat
  /-- What is wrong. -/
  fault : Fault
  deriving DecidableEq, Repr

/-- The wording of a parse error in a file. -/
def ParseError.message (file : String) (e : ParseError) : String :=
  file ++ ":" ++ toString e.line ++ ": " ++ e.fault.message

/-- What a line says. -/
inductive Line where
  /-- Nothing. -/
  | nothing
  /-- A section starts. -/
  | header (name : List Char)
  /-- A key has a value. -/
  | entry (key value : List Char)
  /-- A value goes on. -/
  | continuation (text : List Char)
  deriving DecidableEq, Repr

/-- Whether a character starts a comment. -/
def isCommentSign (c : Char) : Bool :=
  c = '#' || c = ';'

/-- Whether a line is blank or a comment. -/
def saysNothing (line : List Char) : Bool :=
  match Text.trimLeft line with
  | [] => true
  | c :: _ => isCommentSign c

/-- A line up to the first occurrence of a character, and what follows it if
    it occurs. -/
def cutAt (c : Char) (line : List Char) : List Char × Option (List Char) :=
  (line.takeWhile (· != c), (line.dropWhile (· != c)).tail?)

/-- Key and value on one line. -/
def keyValue? (line : List Char) : Option (List Char × List Char) :=
  let atColon : Option (List Char × List Char) :=
    match cutAt ':' line with
    | (key, some value) => some (key, value)
    | _ => none
  match cutAt '=' line with
  | (key, some value) => if key.contains ':' then atColon else some (key, value)
  | _ => atColon

/-- A line that starts with a bracket, without a comment at its end. -/
def withoutComment (line : List Char) : List Char :=
  Text.trimRight (cutAt ';' (Text.trimRight (cutAt '#' line).1)).1

/-- What a line says. -/
def readLine (line : List Char) : Except Fault Line :=
  if saysNothing line then .ok .nothing
  else
    let line := Text.trimRight line
    match line with
    | [] => .ok .nothing
    | '[' :: _ =>
      match (withoutComment line).reverse with
      | ']' :: rest =>
        match rest.reverse with
        | '[' :: name => if name.isEmpty then .error .emptySectionName else .ok (.header name)
        | _ => .ok (.continuation (Text.trim line))
      | _ => .ok (.continuation (Text.trim line))
    | c :: _ =>
      if Text.isBlank c then .ok (.continuation (Text.trim line))
      else
        match keyValue? line with
        | some (key, value) => .ok (.entry (Text.trim key) (Text.trim value))
        | none => .error (.unexpectedLine line)

/-- A section or a key, with its line. -/
inductive Item where
  /-- A section starts. -/
  | header (line : Nat) (name : String)
  /-- A key of a section, or of none, has a value. -/
  | entry (line : Nat) (section? : Option String) (key value : String)
  deriving DecidableEq, Repr

/-- A value that goes on: after a line feed, unless it was empty so far. -/
def continued (value : String) (text : List Char) : String :=
  if value.isEmpty then String.ofList text else value ++ "\n" ++ String.ofList text

/-- Adds a line to the items above it, which are reversed. -/
def addLine (number : Nat) (current : Option String) (items : List Item) :
    Line → Except ParseError (Option String × List Item)
  | .nothing => .ok (current, items)
  | .header name =>
    let name := String.ofList name
    .ok (some name, .header number name :: items)
  | .entry key value =>
    .ok (current, .entry number current (String.ofList key) (String.ofList value) :: items)
  | .continuation text =>
    match items with
    | .entry line sec key value :: rest =>
      .ok (current, .entry line sec key (continued value text) :: rest)
    | _ => .error ⟨number, .unexpectedContinuation⟩

/-- The items of lines, from a line number on. -/
def collect (number : Nat) (current : Option String) (items : List Item) :
    List (List Char) → Except ParseError (List Item)
  | [] => .ok items.reverse
  | line :: rest =>
    match readLine line with
    | .error fault => .error ⟨number, fault⟩
    | .ok said =>
      match addLine number current items said with
      | .error e => .error e
      | .ok (current, items) => collect (number + 1) current items rest

/-- A document: its sections in order, each with its keys and values. -/
abbrev Document := List (String × List (String × String))

namespace Document

/-- The keys of a section, with their values. -/
def keys? (d : Document) (name : String) : Option (List (String × String)) :=
  (d.find? (·.1 = name)).map (·.2)

/-- The value of a key of a section. -/
def get? (d : Document) (name key : String) : Option String :=
  (d.keys? name).bind fun keys => (keys.find? (·.1 = key)).map (·.2)

/-- Adds a key to a section that is there. -/
def put (d : Document) (name key value : String) : Document :=
  d.map fun (n, keys) => if n = name then (n, keys ++ [(key, value)]) else (n, keys)

/-- Adds a section or a key. -/
def add (d : Document) : Item → Except ParseError Document
  | .header line name =>
    if (d.keys? name).isSome then .error ⟨line, .duplicateSection name⟩
    else .ok (d ++ [(name, [])])
  | .entry line none _ _ => .error ⟨line, .noSection⟩
  | .entry line (some sec) key value =>
    if (d.get? sec key).isSome then .error ⟨line, .duplicateName key⟩
    else .ok (d.put sec key value)

end Document

/-- A text without a byte-order mark at its start. -/
def withoutMark : List Char → List Char
  | '\ufeff' :: cs => cs
  | cs => cs

/-- A text as a document. -/
def parse (text : String) : Except ParseError Document := do
  let items ← collect 1 none [] (Text.lines (withoutMark text.toList))
  items.foldlM Document.add []

end Ini

end NamePatterns
