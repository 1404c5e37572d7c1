/-!
# Paths

Names of files, absolute or relative to a directory.

A path is read from text once and kept as how it starts and the parts between
its slashes. Empty parts and single dots name nothing and are dropped; two
dots are kept, since what they mean depends on the place they are followed
from. Exactly two slashes at the start are told from one or from more.

To resolve a path is to make it absolute and to remove each pair of dots
together with the part before it, by looking at the path alone.

No name of a file holds the null character. A path may hold it all the same,
but nothing can ever be there.

## Main definitions

* `Path`: A path.
* `Path.ofString`, `Path.text`: Paths from text and back.
* `Path.join`: A path followed from another one.
* `Path.ending`: The ending of the name of a file.
* `Path.resolve`: A path without dots, from a working directory.
* `Path.holdsNull`: Whether the null character is in a path.

## Theorems

* `Path.resolve_isAbsolute`: A resolved path is absolute.
-/

namespace NamePatterns

/-- How a path starts. -/
inductive PathStart where
  /-- From the directory it is followed from. -/
  | relative
  /-- From the root. -/
  | root
  /-- From the root, with exactly two slashes. -/
  | doubleRoot
  deriving DecidableEq, Repr

/-- A path. -/
structure Path where
  /-- How it starts. -/
  start : PathStart
  /-- Its parts. -/
  parts : List String
  deriving DecidableEq, Repr

namespace Path

/-- The stretches of a text between slashes. -/
def pieces : List Char → List (List Char)
  | [] => [[]]
  | c :: cs =>
    if c = '/' then [] :: pieces cs
    else
      match pieces cs with
      | [] => [[c]]
      | p :: ps => (c :: p) :: ps

/-- How a text starts as a path. -/
def startOf (cs : List Char) : PathStart :=
  match (cs.takeWhile (· = '/')).length with
  | 0 => .relative
  | 2 => .doubleRoot
  | _ => .root

/-- Whether a stretch between slashes names something. -/
def isPart (piece : List Char) : Bool :=
  piece != [] && piece != ['.']

/-- A path from text. -/
def ofString (s : String) : Path :=
  ⟨startOf s.toList, ((pieces s.toList).filter isPart).map String.ofList⟩

/-- A path as text; the empty path is a single dot. -/
def text (p : Path) : String :=
  match p.start, p.parts with
  | .relative, [] => "."
  | .relative, parts => "/".intercalate parts
  | .root, parts => "/" ++ "/".intercalate parts
  | .doubleRoot, parts => "//" ++ "/".intercalate parts

/-- Whether a path starts from the root. -/
def isAbsolute (p : Path) : Bool :=
  p.start != .relative

/-- A path followed from another one. -/
def join (above below : Path) : Path :=
  if below.isAbsolute then below else ⟨above.start, above.parts ++ below.parts⟩

/-- The ending of a name: from its last dot on, unless that is its first or
    its last character. -/
def endingOf (name : List Char) : List Char :=
  let back := name.reverse.takeWhile (· != '.')
  if back = [] || name.length ≤ back.length + 1 then [] else '.' :: back.reverse

/-- The ending of the last part of a path. -/
def ending (p : Path) : String :=
  match p.parts.getLast? with
  | none => ""
  | some name => String.ofList (endingOf name.toList)

/-- Follows parts from a place, which is reversed. -/
def follow : (place : List String) → List String → List String
  | place, [] => place.reverse
  | place, part :: parts =>
    if part = ".." then follow place.tail parts else follow (part :: place) parts

/-- A path without dots, followed from a working directory. -/
def resolve (working p : Path) : Path :=
  ⟨.root, follow [] (working.join p).parts⟩

/-- Whether the null character is in a path. -/
def holdsNull (p : Path) : Bool :=
  p.parts.any fun part => part.toList.contains (Char.ofNat 0)

/-- A resolved path is absolute. -/
theorem resolve_isAbsolute (working p : Path) : (working.resolve p).isAbsolute = true :=
  rfl

end Path

end NamePatterns
