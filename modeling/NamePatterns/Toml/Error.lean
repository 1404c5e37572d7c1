import NamePatterns.Text.Integer
import NamePatterns.Text.Lines
import NamePatterns.Text.Quoted

/-!
# Refused TOML Documents

Why a text is refused as a TOML document, and how that is worded.

A fault is reported at a place, which is kept as the number of characters that
follow it: the reader works on the rest of the text and need not count. The
place is named by line and column, or as the end of the document.

## Main definitions

* `Toml.Key`: A dotted key.
* `Toml.Fault`: What is wrong.
* `Toml.ParseError`: A fault and its place.
* `Toml.Refusal`: A parse error, or an integer too long to convert.
-/

namespace NamePatterns

namespace Toml

/-- The parts of a dotted key. -/
abbrev Key := List String

/-- A dotted key as it is shown: its parts between parentheses, with a comma
    behind a single one. -/
def Key.shown (key : Key) : String :=
  match key with
  | [part] => "(" ++ Text.quoted part ++ ",)"
  | parts => "(" ++ ", ".intercalate (parts.map Text.quoted) ++ ")"

/-- What is wrong with a document. -/
inductive Fault where
  /-- A line that starts no statement. -/
  | invalidStatement
  /-- Something behind a statement. -/
  | afterStatement
  /-- A second declaration of a table. -/
  | declaredTwice (key : Key)
  /-- A value where there is one already. -/
  | overwrite
  /-- The head of a table without its end. -/
  | tableEnd
  /-- The head of a table in a list without its end. -/
  | listEnd
  /-- A change to an inline value. -/
  | immutable (key : Key)
  /-- A dotted key that leads into a declared table. -/
  | redefinesTable (key : Key)
  /-- A key without its value. -/
  | equalsMissing
  /-- No key where one belongs. -/
  | keyStart
  /-- A list without its end. -/
  | unclosedList
  /-- An inline table without its end. -/
  | unclosedInlineTable
  /-- A key given twice in an inline table. -/
  | duplicateInlineKey (part : String)
  /-- A backslash that escapes nothing. -/
  | badEscape
  /-- Something else than the digits of an escape. -/
  | hexValue
  /-- An escape that stands for no character. -/
  | notScalar
  /-- A literal string without its end. -/
  | endExpected (terminator : List Char)
  /-- A control character in a literal string or a comment. -/
  | invalidCharacter (c : Char)
  /-- A string without its end. -/
  | unterminatedString
  /-- A control character in a string. -/
  | illegalCharacter (c : Char)
  /-- A date that does not exist. -/
  | invalidDate
  /-- No value where one belongs. -/
  | invalidValue
  deriving DecidableEq, Repr

/-- The wording of a fault. -/
def Fault.message : Fault → String
  | .invalidStatement => "Invalid statement"
  | .afterStatement => "Expected newline or end of document after a statement"
  | .declaredTwice key => "Cannot declare " ++ key.shown ++ " twice"
  | .overwrite => "Cannot overwrite a value"
  | .tableEnd => "Expected ']' at the end of a table declaration"
  | .listEnd => "Expected ']]' at the end of an array declaration"
  | .immutable key => "Cannot mutate immutable namespace " ++ key.shown
  | .redefinesTable key => "Cannot redefine namespace " ++ key.shown
  | .equalsMissing => "Expected '=' after a key in a key/value pair"
  | .keyStart => "Invalid initial character for a key part"
  | .unclosedList => "Unclosed array"
  | .unclosedInlineTable => "Unclosed inline table"
  | .duplicateInlineKey part => "Duplicate inline table key " ++ Text.quoted part
  | .badEscape => "Unescaped '\\' in a string"
  | .hexValue => "Invalid hex value"
  | .notScalar => "Escaped character is not a Unicode scalar value"
  | .endExpected terminator => "Expected " ++ String.ofList (Text.quote terminator)
  | .invalidCharacter c => "Found invalid character " ++ String.ofList (Text.quote [c])
  | .unterminatedString => "Unterminated string"
  | .illegalCharacter c => "Illegal character " ++ String.ofList (Text.quote [c])
  | .invalidDate => "Invalid date or datetime"
  | .invalidValue => "Invalid value"

/-- A fault, and how many characters follow its place. -/
structure ParseError where
  /-- What is wrong. -/
  fault : Fault
  /-- How many characters follow the place. -/
  left : Nat
  deriving DecidableEq, Repr

/-- The wording of a parse error in a text. -/
def ParseError.message (text : List Char) (e : ParseError) : String :=
  let place :=
    if e.left = 0 then "end of document"
    else
      let position := text.length - e.left
      "line " ++ toString (Text.lineOf text position) ++ ", column "
        ++ toString (Text.columnOf text position)
  e.fault.message ++ " (at " ++ place ++ ")"

/-- Why a text is refused as a document. -/
inductive Refusal where
  /-- It is malformed. -/
  | malformed (e : ParseError)
  /-- An integer has too many digits to be converted. -/
  | tooManyDigits (e : Text.TooManyDigits)
  deriving DecidableEq, Repr

/-- A fault in front of the rest of a text. -/
def fail {α : Type} (rest : List Char) (fault : Fault) : Except Refusal α :=
  .error (.malformed ⟨fault, rest.length⟩)

end Toml

end NamePatterns
