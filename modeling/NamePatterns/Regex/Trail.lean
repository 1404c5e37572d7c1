import NamePatterns.Regex.Basic

/-!
# Trails

Places in a text, and what a search leaves behind on its way.

A trail holds the place that was reached last and the marks that groups have
set where they open and close. Group number `g` sets the marks `2 * g` and
`2 * g + 1`; groups are numbered from one, so the first two marks are never
set. An attempt that fails leaves its trail to the next one: the marks that it
added are dropped, but where it moved older marks they stay moved, unless they
are put back. A group thus counts as matched once it has two marks in the right
order, even while it is open.

## Main definitions

* `Place`: A place in a text.
* `Trail`: What a search leaves behind.
* `Trail.mark`: Setting a mark.
* `Trail.restored`: The trail of a failed attempt, for the next one.
* `Trail.matched?`: The text that a group has matched.
* `Trail.isOrdered`: Whether no group ends before it starts.

## Theorems

* `Trail.restored_nil`: Nothing is left behind where no marks were set before.
-/

namespace NamePatterns

namespace Regex

/-- A place in a text: the characters that follow it. -/
abbrev Place := List Char

namespace Place

/-- The place some characters further back in a whole text, if the text reaches
    that far. -/
def back? (whole : List Char) (count : Nat) (p : Place) : Option Place :=
  if count + p.length ≤ whole.length then some (whole.drop (whole.length - (count + p.length)))
  else none

/-- The character before a place in a whole text. -/
def previous? (whole : List Char) (p : Place) : Option Char :=
  (p.back? whole 1).bind List.head?

end Place

/-- What a search leaves behind. -/
structure Trail where
  /-- The place that was reached last. -/
  reached : Place
  /-- The marks that groups have set, by their numbers. -/
  marks : List (Option Place) := []
  deriving DecidableEq, Repr

namespace Trail

/-- The trail after another place has been reached. -/
def goto (t : Trail) (p : Place) : Trail :=
  { t with reached := p }

/-- Sets a mark. Marks of lower numbers that are not set yet are left out. -/
def mark (t : Trail) (number : Nat) (p : Place) : Trail :=
  if number < t.marks.length then { t with marks := t.marks.set number (some p) }
  else
    { t with
      marks := t.marks ++ List.replicate (number - t.marks.length) none ++ [some p] }

/-- Marks where a group opens. -/
def openGroup (t : Trail) (group : Nat) (p : Place) : Trail :=
  t.mark (2 * group) p

/-- Marks where a group closes. -/
def closeGroup (t : Trail) (group : Nat) (p : Place) : Trail :=
  t.mark (2 * group + 1) p

/-- The trail of a failed attempt, for the attempt that comes next: all marks
    are put back, or those that the attempt added are dropped. -/
def restored (t : Trail) (putBack : Bool) (marks : List (Option Place)) : Trail :=
  { t with marks := if putBack then marks else t.marks.take marks.length }

/-- Nothing is left behind where no marks were set before. -/
theorem restored_nil (t : Trail) (putBack : Bool) : (t.restored putBack []).marks = [] := by
  cases putBack <;> rfl

/-- The text between two marks, if they are in the right order. -/
def between? (opened closed : Place) : Option (List Char) :=
  if closed.length ≤ opened.length then some (opened.take (opened.length - closed.length))
  else none

/-- The text that a group has matched. -/
def matched? (t : Trail) (group : Nat) : Option (List Char) := do
  let opened ← (← t.marks[2 * group]?)
  let closed ← (← t.marks[2 * group + 1]?)
  between? opened closed

/-- Whether no group ends before it starts. -/
def inOrder : List (Option Place) → Bool
  | some opened :: some closed :: marks => (between? opened closed).isSome && inOrder marks
  | _ :: _ :: marks => inOrder marks
  | _ => true

/-- Whether no group ends before it starts. -/
def isOrdered (t : Trail) : Bool :=
  inOrder t.marks

end Trail

end Regex

end NamePatterns
