import NamePatterns.Regex.Basic

/-!
# Alternatives

Rows of trees and alternatives between them, as trees.

In a row, plain groups are dissolved into what they hold. Of several
alternatives, the trees that all of them start with are written once, in front
of the choice, as long as these are single characters, anchors or references.
A choice between single characters and sets is one set.

## Main definitions

* `Regex.sharedStart`: What several rows start with.
* `Regex.choice`: A choice between rows, as it is.
* `Regex.alternatives`: Several rows as alternatives.
-/

namespace NamePatterns

namespace Regex

/-- A tree of a row: what a plain group holds, any other tree alone. -/
def dissolved : Regex → List Regex
  | flagged change r => if change = {} then r.toList else [flagged change r]
  | r => [r]

/-- Whether a tree can be written once for several alternatives. -/
def isShareable : Regex → Bool
  | literal _ | any | anyBut _ | set .. | lineStart | lineEnd | backref .. => true
  | _ => false

/-- The shareable trees that a row and several others start with. -/
def sharedStart : List Regex → List (List Regex) → List Regex
  | [], _ => []
  | r :: row, rows =>
    if r.isShareable && rows.all (·.head? == some r) then
      r :: sharedStart row (rows.map List.tail)
    else []

/-- The items of a row that is one character or one set. -/
def setItems? : List Regex → Option (List SetItem)
  | [literal c] => some [.single c]
  | [set false items] => some items
  | _ => none

/-- A row inside a choice. A row that is a choice itself stays apart from the
    choice around it. -/
def alternative (row : List Regex) : Regex :=
  match row with
  | [alt a b] => flagged {} (alt a b)
  | _ => seq row

/-- A choice between rows. -/
def choice (rows : List (List Regex)) : Regex :=
  match rows.mapM setItems? with
  | some items => set false items.flatten.eraseDups
  | none => oneOf (rows.map alternative)

/-- Several rows as alternatives. -/
def alternatives : List (List Regex) → Regex
  | [] => empty
  | [row] => seq row
  | row :: rows =>
    let shared := sharedStart row rows
    seq (shared ++ [choice ((row :: rows).map (·.drop shared.length))])

end Regex

end NamePatterns
