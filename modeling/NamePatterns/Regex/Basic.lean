/-!
# Regular Expressions

The syntax trees of the regular expressions that wildcards translate to.

A wildcard with balanced brackets yields literals, dots, sets and stars only.
Where brackets nest or close too early, the text between them reaches the
regular expression as it stands, so a tree can hold every construct that can
be written without letter escapes: groups, references to them, conditionals,
assertions and all kinds of repetition.

## Main definitions

* `Flags`, `FlagChange`: How characters and lines are compared, and changes.
* `SetItem`, `SetItem.contains`: One item of a character set, and what it holds.
* `Greed`: How a repetition chooses among its counts.
* `Width`: The lengths of the texts that a tree can match.
* `Regex`: The trees.
* `Regex.seq`, `Regex.toList`: Several trees in a row, and back.
* `Regex.oneOf`: Several trees as alternatives.
* `Regex.width`: The width of a tree.

## Theorems

* `Regex.toList_seq`: A row of single trees is read back.
-/

namespace NamePatterns

/-- How characters and line ends are compared. -/
structure Flags where
  /-- Characters that differ by case alone are the same. -/
  ignoreCase : Bool := false
  /-- The anchors also hold at the line feeds inside a text. -/
  multiline : Bool := false
  /-- The dot also matches a line feed. -/
  dotAll : Bool := false
  /-- Case is known for ASCII letters only. -/
  asciiOnly : Bool := false
  deriving DecidableEq, Repr

/-- What the head of a group changes in the flags that hold inside it. -/
structure FlagChange where
  /-- Whether case is ignored from here on, if stated. -/
  ignoreCase : Option Bool := none
  /-- Whether anchors hold at line feeds from here on, if stated. -/
  multiline : Option Bool := none
  /-- Whether the dot matches line feeds from here on, if stated. -/
  dotAll : Option Bool := none
  /-- Whether case is known for ASCII letters only from here on, if stated. -/
  asciiOnly : Option Bool := none
  /-- Whether space was skipped in what is written from here on, if stated;
      this changes nothing in what matches. -/
  verbose : Option Bool := none
  deriving DecidableEq, Repr

/-- The flags after a change. -/
def Flags.change (f : Flags) (d : FlagChange) : Flags where
  ignoreCase := d.ignoreCase.getD f.ignoreCase
  multiline := d.multiline.getD f.multiline
  dotAll := d.dotAll.getD f.dotAll
  asciiOnly := d.asciiOnly.getD f.asciiOnly

/-- One item of a character set. -/
inductive SetItem where
  /-- A single character. -/
  | single (c : Char)
  /-- All characters from one to another, both included. -/
  | range (low high : Char)
  deriving DecidableEq, Repr

/-- Whether an item of a set holds a character. -/
def SetItem.contains : SetItem → Char → Bool
  | .single d, c => c == d
  | .range low high, c => low ≤ c && c ≤ high

/-- How a repetition chooses among its counts. -/
inductive Greed where
  /-- As many as possible first. -/
  | greedy
  /-- As few as possible first. -/
  | lazy
  /-- As many as possible, and no other count. -/
  | possessive
  deriving DecidableEq, Repr

/-- The count from which on repetitions are not told apart. It also stands for
    counts without an end. -/
def countLimit : Nat := 4294967295

/-- The lengths of the texts that a tree can match, as far as counts go: the
    least stays below the limit, the greatest may reach it. -/
structure Width where
  /-- The least length. -/
  low : Nat
  /-- The greatest length. -/
  high : Nat
  deriving DecidableEq, Repr

/-- A syntax tree. -/
inductive Regex where
  /-- The empty text. -/
  | empty
  /-- One character, given. -/
  | literal (c : Char)
  /-- Any character; a line feed only if the flags say so. -/
  | any
  /-- Any character but one. -/
  | anyBut (c : Char)
  /-- One character that is, or is not, among the items. -/
  | set (negated : Bool) (items : List SetItem)
  /-- The start of the text. -/
  | lineStart
  /-- The end of the text, or a last line feed before it. -/
  | lineEnd
  /-- One tree after the other. -/
  | cat (first second : Regex)
  /-- One tree or, failing that, the other. -/
  | alt (first second : Regex)
  /-- A tree several times in a row. -/
  | repetition (low : Nat) (high : Option Nat) (greed : Greed) (body : Regex)
  /-- A group whose text is remembered under a number. -/
  | capture (group : Nat) (body : Regex)
  /-- A group inside which flags may differ. -/
  | flagged (flags : FlagChange) (body : Regex)
  /-- A group that gives up its other ways to match once it has matched. -/
  | atomic (body : Regex)
  /-- An assertion on what follows. -/
  | lookAhead (negated : Bool) (body : Regex)
  /-- An assertion on what precedes. -/
  | lookBehind (negated : Bool) (body : Regex)
  /-- The text that a group matched, whose width is given. -/
  | backref (group : Nat) (width : Width)
  /-- One tree if a group has matched, the other if not. -/
  | conditional (group : Nat) (yes no : Regex)
  deriving DecidableEq, Repr

namespace Width

/-- A width, as far as counts go. -/
def clamped (low high : Nat) : Width :=
  ⟨min low (countLimit - 1), min high countLimit⟩

/-- The width of what is one character long. -/
def one : Width := ⟨1, 1⟩

/-- The width of what is empty. -/
def naught : Width := ⟨0, 0⟩

/-- The width of one thing after the other. -/
def add (a b : Width) : Width :=
  clamped (a.low + b.low) (a.high + b.high)

/-- The width of one thing or the other. -/
def union (a b : Width) : Width :=
  ⟨min a.low b.low, max a.high b.high⟩

/-- The width of repetitions. What is always empty stays empty however often
    it is repeated. -/
def times (low : Nat) (high : Option Nat) (a : Width) : Width :=
  clamped (low * a.low) (high.getD countLimit * a.high)

/-- Whether all texts of this width are equally long. -/
def isFixed (a : Width) : Bool :=
  a.low == a.high

end Width

namespace Regex

/-- Several trees in a row. -/
def seq : List Regex → Regex
  | [] => empty
  | [r] => r
  | r :: rs => cat r (seq rs)

/-- The trees in a row that a tree consists of. -/
def toList : Regex → List Regex
  | empty => []
  | cat a b => a.toList ++ b.toList
  | r => [r]

/-- A row of single trees is read back. -/
theorem toList_seq {rs : List Regex} (h : ∀ r ∈ rs, r.toList = [r]) : (seq rs).toList = rs := by
  induction rs with
  | nil => rfl
  | cons r rs ih =>
    cases rs with
    | nil => exact h r (List.mem_singleton.mpr rfl)
    | cons r' rs' =>
      show r.toList ++ (seq (r' :: rs')).toList = _
      rw [h r List.mem_cons_self, ih fun x hx => h x (List.mem_cons_of_mem _ hx)]
      rfl

/-- Several trees as alternatives, the first one preferred. -/
def oneOf : List Regex → Regex
  | [] => empty
  | [r] => r
  | r :: rs => alt r (oneOf rs)

/-- The width of a tree. A conditional without its second branch counts the
    empty text as that branch. -/
def width : Regex → Width
  | empty | lineStart | lineEnd | lookAhead .. | lookBehind .. => Width.naught
  | literal _ | any | anyBut _ | set .. => Width.one
  | cat a b => a.width.add b.width
  | alt a b => a.width.union b.width
  | repetition low high _ r => r.width.times low high
  | capture _ r | flagged _ r | atomic r => r.width
  | backref _ w => Width.clamped w.low w.high
  | conditional _ yes no => yes.width.union no.width

end Regex

end NamePatterns
