import NamePatterns.Text.Integer
import NamePatterns.Text.Printable

/-!
# Texts in Reports

Texts as reports show them: between quotes, on one line, with everything that
cannot be shown written as an escape, and cut in the middle if they are long.

The quotes are single, unless the text holds a single quote and no double one.
The quote in use and the backslash are written behind a backslash, the line
feed, the carriage return and the tab by their letters, and every other
character that is not printable by its number, with two, four or eight digits.

How long a text is is measured in bytes of UTF-8. A character that would stand
half inside a part of a text that is cut is left out of that part.

## Main definitions

* `quoteFor`: The quote that encloses a text.
* `escapeIn`: A character inside given quotes.
* `quote`: A text between quotes.
* `headWithin`, `tailWithin`: The start and the end of a text within a number
  of bytes.
* `excerpt`: A text, or its start and its end with dots between them.
-/

namespace NamePatterns

namespace Text

/-- The quote that encloses a text: the single one, unless the text holds it
    and no double one. -/
def quoteFor (cs : List Char) : Char :=
  if cs.contains '\'' && !cs.contains '"' then '"' else '\''

/-- A character as it stands inside the given quotes. -/
def escapeIn (q c : Char) : List Char :=
  if c == q || c == '\\' then ['\\', c]
  else if c == '\n' then ['\\', 'n']
  else if c == '\r' then ['\\', 'r']
  else if c == '\t' then ['\\', 't']
  else if isPrintable c then [c]
  else if c.toNat < 0x100 then '\\' :: 'x' :: hex 2 c.toNat
  else if c.toNat < 0x10000 then '\\' :: 'u' :: hex 4 c.toNat
  else '\\' :: 'U' :: hex 8 c.toNat

/-- A text between quotes. -/
def quote (cs : List Char) : List Char :=
  let q := quoteFor cs
  q :: cs.flatMap (escapeIn q) ++ [q]

/-- A string between quotes. -/
def quoted (s : String) : String :=
  String.ofList (quote s.toList)

/-- How many bytes characters take. -/
def byteCount (cs : List Char) : Nat :=
  cs.foldl (fun bytes c => bytes + c.utf8Size) 0

/-- The longest start of a text within a number of bytes. -/
def headWithin (bytes : Nat) : List Char → List Char
  | [] => []
  | c :: cs => if c.utf8Size ≤ bytes then c :: headWithin (bytes - c.utf8Size) cs else []

/-- The longest end of a text within a number of bytes. -/
def tailWithin (bytes : Nat) (cs : List Char) : List Char :=
  (headWithin bytes cs.reverse).reverse

/-- A text of up to fifty bytes as it is, and of a longer one the first
    twenty-five and the last twenty-four. -/
def excerpt (cs : List Char) : List Char :=
  if byteCount cs ≤ 50 then cs else headWithin 25 cs ++ ['.', '.', '.'] ++ tailWithin 24 cs

end Text

end NamePatterns
