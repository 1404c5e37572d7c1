/-!
# Tables of Characters

How a standard lists the characters with a property, and the cases of letters.

A `CodeSet` holds the code points at which membership changes, in increasing
order: the first is the first member, the second the first character after
that run, and so on. A character is a member when an odd number of those
boundaries are at or below it, which is one pass over a sorted list.

Letters with a case of their own come in runs: every letter, or every second
one, from a first to a last, and their cases follow each other in the same
way. A `CaseRun` says where a run starts and ends and where the case of its
first letter is.

## Main definitions

* `CodeSet`: A set of code points, by its boundaries.
* `CodeSet.contains`: Membership.
* `CaseRun`: A run of letters.
* `CaseRun.holds`: Whether a letter is in a run.
* `CaseRun.move`, `CaseRun.source?`: From a letter to its case, and back.
* `CaseRun.meets`: Whether a run has a letter in a range.
-/

namespace NamePatterns

namespace Text

/-- A set of code points, given by the points at which membership changes. -/
structure CodeSet where
  /-- The boundaries, in increasing order; before the first nothing is a member. -/
  boundaries : List Nat

namespace CodeSet

/-- Membership after passing the boundaries at or below a code point. -/
def flips (n : Nat) : List Nat → Bool
  | [] => false
  | b :: bs => if b ≤ n then !flips n bs else false

/-- Whether a character belongs to the set: an odd number of boundaries are
    at or below it. -/
def contains (s : CodeSet) (c : Char) : Bool :=
  flips c.toNat s.boundaries

end CodeSet

/-- A run of letters and of their cases, by code points. -/
structure CaseRun where
  /-- The first letter. -/
  first : Nat
  /-- The last letter. -/
  last : Nat
  /-- How far each letter is from the one before it. -/
  step : Nat
  /-- The case of the first letter. -/
  image : Nat
  deriving DecidableEq, Repr

namespace CaseRun

/-- Whether a code point is a letter of a run. -/
def holds (r : CaseRun) (n : Nat) : Bool :=
  r.first ≤ n && n ≤ r.last && (n - r.first) % r.step == 0

/-- The case of a letter of a run. -/
def move (r : CaseRun) (n : Nat) : Nat :=
  r.image + (n - r.first)

/-- The letter of a run with a given case, if there is one. -/
def source? (r : CaseRun) (n : Nat) : Option Nat :=
  let letter := r.first + (n - r.image)
  if r.image ≤ n && r.holds letter then some letter else none

/-- Whether a run has a letter from one code point to another. -/
def meets (low high : Nat) (r : CaseRun) : Bool :=
  -- The first letter that is not below the range.
  let letter := r.first + (low - r.first + (r.step - 1)) / r.step * r.step
  letter ≤ min high r.last

end CaseRun

end Text

end NamePatterns
