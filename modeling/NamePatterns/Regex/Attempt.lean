import NamePatterns.Regex.Character
import NamePatterns.Regex.Trail

/-!
# Attempts

What a search comes to, and the parts that searches are made of.

A search is written with a continuation. A matcher is entered at a place; it
offers the places where it can end one after the other, in order of
preference, and the first one from which the rest succeeds is taken. Whether
there is a match or not, an attempt ends with a trail, which is handed on.

## Main definitions

* `Attempt`: What a search comes to.
* `Rest`, `Matcher`: Continuations, and what takes them.
* `takeChar`, `takeText`: One character, and the characters of a text.
-/

namespace NamePatterns

namespace Regex

/-- What a search comes to. -/
inductive Attempt where
  /-- A match. -/
  | success (trail : Trail)
  /-- No match. -/
  | failure (trail : Trail)
  deriving DecidableEq, Repr

namespace Attempt

/-- The trail of a match. -/
def trail? : Attempt → Option Trail
  | success t => some t
  | failure _ => none

/-- The attempt or, if it fails, another one with what it leaves behind. -/
@[inline] def orElse (a : Attempt) (next : Trail → Attempt) : Attempt :=
  match a with
  | success t => success t
  | failure t => next t

/-- The attempt, with something done to the trail if it fails. -/
@[inline] def onFailure (a : Attempt) (change : Trail → Trail) : Attempt :=
  a.orElse fun t => failure (change t)

/-- The attempt, and what follows if it succeeds. -/
@[inline] def andThen (a : Attempt) (next : Trail → Attempt) : Attempt :=
  match a with
  | success t => next t
  | failure t => failure t

end Attempt

/-- What is to be matched from a place on. -/
abbrev Rest := Place → Trail → Attempt

/-- The continuation that accepts every place. -/
def accept : Rest := fun p t =>
  .success (t.goto p)

/-- The continuation that accepts the end of the text. -/
def atEnd : Rest := fun p t =>
  if p.isEmpty then .success (t.goto p) else .failure t

/-- A tree that is entered at a place, with a continuation. -/
abbrev Matcher := Place → Trail → Rest → Attempt

/-- One character that passes a test. -/
def takeChar (accepts : Char → Bool) : Matcher := fun p t rest =>
  match p with
  | [] => .failure t
  | c :: cs => if accepts c then rest cs t else .failure t

/-- The characters of a text one after the other. -/
def takeText (f : Flags) : List Char → Matcher
  | [], p, t, rest => rest p t
  | c :: cs, p, t, rest => takeChar (sameInText f c) p t fun p t => takeText f cs p t rest

end Regex

end NamePatterns
