/-!
# Lines

A text as the lines it is made of, and the line and the column of a position.

A line ends at a line feed, a carriage return or the two together, and at the
other line boundaries of Unicode: the vertical tab, the form feed, the file,
group and record separators, the next-line control and the line and paragraph
separators. A boundary at the end of the text opens no further line.

Where a report names a place, only line feeds count: the place is named for
the one who looks at a file in an editor. Lines, columns and the characters of
a column are counted from one, positions from zero.

## Main definitions

* `isLineBreak`: Whether a character ends a line.
* `lines`: The lines of a text, without their ends.
* `lineOf`, `columnOf`: The line and the column of a position.
-/

namespace NamePatterns

namespace Text

/-- Whether a character ends a line. -/
def isLineBreak (c : Char) : Bool :=
  let n := c.toNat
  (0x0A ≤ n && n ≤ 0x0D) || (0x1C ≤ n && n ≤ 0x1E) || n == 0x85 || n == 0x2028 || n == 0x2029

/-- The lines of a text, without their ends. -/
def lines : List Char → List (List Char)
  | [] => []
  | '\r' :: '\n' :: cs => [] :: lines cs
  | c :: cs =>
    if isLineBreak c then [] :: lines cs
    else
      match lines cs with
      | [] => [[c]]
      | l :: ls => (c :: l) :: ls

/-- The line of a position. -/
def lineOf (text : List Char) (position : Nat) : Nat :=
  (text.take position).count '\n' + 1

/-- The column of a position in its line. -/
def columnOf (text : List Char) (position : Nat) : Nat :=
  ((text.take position).reverse.takeWhile (· != '\n')).length + 1

end Text

end NamePatterns
