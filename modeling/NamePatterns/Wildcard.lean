import NamePatterns.Log.Logged
import NamePatterns.Regex.Match
import NamePatterns.Regex.Parser

/-!
# Wildcards

A shell-style wildcard as a part of a regular expression.

A scan reads a wildcard from left to right. It knows whether the next
character is escaped, and how many more class brackets have been opened than
closed: a plain count, which goes below zero after a stray closing bracket.
Stars and question marks become repetitions and dots unless they stand inside a
class. Characters with a meaning in regular expressions are escaped where the
count is zero and kept elsewhere, below zero as well as inside a class; only
the caret is escaped everywhere. A dash where the count is zero may stand for
the start of a word inside a name.

A wildcard with a class that stays open matches nothing. So does one whose
text is no regular expression; that is reported. Either way only this
wildcard falls silent, and not the list it stands in.

## Main definitions

* `Wildcard.Scan`: What is known between two characters.
* `Wildcard.emit`: What one character is written as.
* `Wildcard.translate`: What a wildcard is written as.
* `Wildcard.openClasses`: How many classes stay open.
* `Wildcard.Outcome`: What becomes of a wildcard.
* `Wildcard.compile`: A wildcard as a fragment of a regular expression.

## Theorems

* `Wildcard.translateFrom_append`: Translating two texts in a row.
* `Wildcard.toList_translate`: What a wildcard is written as, by its characters.
-/

namespace NamePatterns

/-- The regular expression that matches nothing. -/
def matchNothing : String := "(?!)"

/-- The regular expression for the start of a word inside a name. -/
def wordBoundary : String := "[A-Z0-9]"

namespace Wildcard

/-- What is known between two characters of a wildcard. -/
structure Scan where
  /-- Whether the next character is escaped. -/
  escaping : Bool := false
  /-- How many more brackets have been opened than closed. -/
  depth : Int := 0
  /-- Whether the character before is an opening bracket, escaped or not. -/
  afterOpening : Bool := false
  deriving DecidableEq, Repr

/-- Whether a character has to be escaped outside classes. -/
def isOperator (c : Char) : Bool :=
  c = '.' || c = '(' || c = ')' || c = '^' || c = '+' || c = '|' || c = '$' || c = '\x7b'
    || c = '\x7d'

/-- What one character is written as. -/
def emit (dashes : Bool) (s : Scan) (c : Char) : List Char :=
  if c = '*' then
    if 0 < s.depth then ['*'] else if s.escaping then ['\\', '*'] else ['.', '*']
  else if c = '?' then
    if 0 < s.depth then ['?'] else if s.escaping then ['\\', '?'] else ['.']
  else if isOperator c then
    -- Inside a class only the caret keeps a meaning.
    if s.depth = 0 || c = '^' then ['\\', c] else [c]
  else if c = '\\' then
    if s.escaping then ['\\', '\\'] else []
  else if c = '[' || c = ']' then
    if s.escaping then ['\\', c] else [c]
  else if c = '!' then
    if 0 < s.depth && s.afterOpening then ['^'] else ['!']
  else if c = '-' then
    if dashes && s.depth = 0 then wordBoundary.toList else ['-']
  else [c]

/-- What is known after one more character. -/
def advance (s : Scan) (c : Char) : Scan where
  escaping := c = '\\' && !s.escaping
  depth :=
    if s.escaping then s.depth
    else if c = '[' then s.depth + 1
    else if c = ']' then s.depth - 1
    else s.depth
  afterOpening := c = '['

/-- What a text is written as from a state on. -/
def translateFrom (dashes : Bool) : Scan → List Char → List Char
  | _, [] => []
  | s, c :: cs => emit dashes s c ++ translateFrom dashes (advance s c) cs

/-- The state after a text. -/
def scanFrom (s : Scan) (cs : List Char) : Scan :=
  cs.foldl advance s

/-- Translating two texts in a row is translating the second from where the
    first one ended. -/
theorem translateFrom_append (dashes : Bool) (s : Scan) (xs ys : List Char) :
    translateFrom dashes s (xs ++ ys)
      = translateFrom dashes s xs ++ translateFrom dashes (scanFrom s xs) ys := by
  induction xs generalizing s with
  | nil => rfl
  | cons c cs ih => simp [translateFrom, scanFrom, ih]

/-- What a wildcard is written as, whether it is a regular expression or not. -/
def translate (dashes : Bool) (w : String) : String :=
  String.ofList (translateFrom dashes {} w.toList)

theorem toList_translate (dashes : Bool) (w : String) :
    (translate dashes w).toList = translateFrom dashes {} w.toList :=
  String.toList_ofList

/-- How many classes of a wildcard stay open; negative after stray closing
    brackets. -/
def openClasses (w : String) : Int :=
  (scanFrom {} w.toList).depth

/-- What becomes of a wildcard. -/
inductive Outcome where
  /-- What it is written as is a regular expression. -/
  | accepted (fragment : String)
  /-- A class stays open. -/
  | unterminated
  /-- What it is written as is no regular expression. -/
  | rejected (regex : String) (error : Regex.SyntaxError)
  deriving DecidableEq, Repr

/-- The fragment that stands for a wildcard in the list it belongs to. -/
def Outcome.fragment : Outcome → String
  | accepted fragment => fragment
  | unterminated | rejected .. => matchNothing

/-- What becomes of a wildcard. -/
def outcome (dashes : Bool) (w : String) : Except Regex.LimitError Outcome :=
  if 0 < openClasses w then .ok .unterminated
  else
    let regex := translate dashes w
    match Regex.parse regex.toList with
    | .ok _ => .ok (.accepted regex)
    | .error (.malformed e) => .ok (.rejected regex e)
    | .error (.beyondLimit e) => .error e

/-- A report on wildcards that the regular expression made of them fails. -/
def report (wildcards regex message : String) : Log.Record where
  logger := Log.Component.patterns.logger
  level := Log.Level.error
  message := message
  fields :=
    [(.component, .text Log.Component.patterns.name),
      (.pattern, .text wildcards),
      (.details, .table [("regex", .text regex)])]

/-- The report on a wildcard that is written as no regular expression. -/
def rejectionRecord (w regex : String) (e : Regex.SyntaxError) : Log.Record :=
  report w regex <|
    "Wildcard " ++ Text.quoted w ++ " translated to an invalid regex " ++ Text.quoted regex
      ++ "; it will match nothing: " ++ e.message regex

/-- What is reported about a wildcard. -/
def Outcome.records (w : String) : Outcome → List Log.Record
  | rejected regex e => [rejectionRecord w regex e]
  | accepted _ | unterminated => []

/-- A wildcard as a fragment of a regular expression. -/
def compile (dashes : Bool) (w : String) : Logged Regex.LimitError String :=
  match outcome dashes w with
  | .ok o => ⟨o.records w, .ok o.fragment⟩
  | .error e => ⟨[], .error e⟩

end Wildcard

end NamePatterns
