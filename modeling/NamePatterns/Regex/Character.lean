import NamePatterns.Regex.Basic
import NamePatterns.Text.UpperCase

/-!
# Single Characters

Which characters match a literal or a character set.

Where case is ignored, characters are compared by their variants. Sets compare
the folded form of a character with their items, and items beyond the first
plane of Unicode follow rules of their own: a single one is not folded, so an
upper-case letter among the items matches nothing, and a range that reaches
there also holds a character whose upper case it holds.

Trees that take exactly one character are told apart from all others, since
repetitions of them need no bookkeeping. Which trees test one given character
or set before anything else is known as well.

## Main definitions

* `variants`, `sameInText`: When two characters are the same.
* `literalMatches`, `setMatches`: Comparison of single characters.
* `isCasedLiteral`, `isCasedSet`: Whether ignoring case makes a difference.
* `Regex.single?`: What a tree that takes one character accepts.
* `Regex.opening`: What a tree tests first.
-/

namespace NamePatterns

namespace Regex

/-- The characters that differ from one by case alone, itself included. -/
def variants (f : Flags) (c : Char) : List Char :=
  if f.asciiOnly then Text.variantsAscii c else Text.variants c

/-- The folded form of a character. -/
def folded (f : Flags) (c : Char) : Char :=
  if f.ignoreCase then (if f.asciiOnly then Text.lowerAscii c else Text.lower c) else c

/-- Whether two characters are the same inside texts that groups matched. -/
def sameInText (f : Flags) (a b : Char) : Bool :=
  folded f a == folded f b

/-- Whether one character matches a literal. -/
def literalMatches (f : Flags) (literal c : Char) : Bool :=
  if f.ignoreCase then (variants f c).contains literal else c == literal

/-- Whether a character lies beyond the first plane of Unicode. -/
def isSupplementary (c : Char) : Bool :=
  0xFFFF < c.toNat

/-- Whether an item of a set holds a folded character, or the item and the
    character are the same but for their case. -/
def holdsFolded (f : Flags) (c : Char) : SetItem → Bool
  | .single d => if isSupplementary d then c == d else (variants f c).contains d
  | .range low high =>
    ((variants f c).any fun v => SetItem.contains (.range low high) v && !isSupplementary v)
      || isSupplementary high
        && (SetItem.contains (.range low high) c
          || SetItem.contains (.range low high) (Text.upper c))

/-- Whether one character matches a set. -/
def setMatches (f : Flags) (negated : Bool) (items : List SetItem) (c : Char) : Bool :=
  (if f.ignoreCase then items.any (holdsFolded f (folded f c)) else items.any (·.contains c))
    != negated

/-- Whether ignoring case makes a difference to a character. -/
def isCasedLiteral (f : Flags) (c : Char) : Bool :=
  f.ignoreCase && if f.asciiOnly then Text.isCasedAscii c else Text.isCased c

/-- Whether ignoring case makes a difference to an item of a set. What lies
    beyond the first plane always counts as cased. -/
def isCasedItem (f : Flags) : SetItem → Bool
  | .single c => isSupplementary c || isCasedLiteral f c
  | .range low high =>
    isSupplementary high
      || if f.asciiOnly then Text.hasCasedAsciiWithin low high else Text.hasCasedWithin low high

/-- Whether ignoring case makes a difference to a set. -/
def isCasedSet (f : Flags) (items : List SetItem) : Bool :=
  f.ignoreCase && items.any (isCasedItem f)

/-- What a tree that takes exactly one character accepts. -/
structure Single where
  /-- The characters that match. -/
  accepts : Char → Bool
  /-- Whether counting repetitions counts as reaching the places between
      them. -/
  advances : Bool

/-- Whether a cased literal stands for several folded characters. -/
def isSharedLiteral (f : Flags) (c : Char) : Bool :=
  isCasedLiteral f c && !f.asciiOnly && (Text.foldClass (Text.lower c)).length != 1

/-- What a tree accepts if it takes exactly one character. -/
def single? (f : Flags) : Regex → Option Single
  | literal c => some ⟨literalMatches f c, isSharedLiteral f c⟩
  | anyBut c => some ⟨fun d => !literalMatches f c d, isSharedLiteral f c⟩
  | any => some ⟨fun c => f.dotAll || c != '\n', false⟩
  | set negated items => some ⟨setMatches f negated items, isCasedSet f items⟩
  | flagged change r => single? (f.change change) r
  | _ => none

/-- What a tree tests first. -/
inductive Opening where
  /-- Nothing: it is empty. -/
  | nothing
  /-- That a literal follows. -/
  | literal (accepts : Char → Bool)
  /-- That a character of a set follows. -/
  | set (accepts : Char → Bool)
  /-- Something else. -/
  | other

/-- What a tree tests first. Characters for which case is ignored count as
    something else. -/
def opening (f : Flags) : Regex → Opening
  | empty => .nothing
  | literal c => if isCasedLiteral f c then .other else .literal (literalMatches f c)
  | set negated items =>
    if isCasedSet f items then .other else .set (setMatches f negated items)
  | cat a b =>
    match opening f a with
    | .nothing => opening f b
    | o => o
  | flagged change r => opening (f.change change) r
  | _ => .other

/-- Whether a text starts with an accepted character. -/
def startsWith (accepts : Char → Bool) : List Char → Bool
  | [] => false
  | c :: _ => accepts c

namespace Opening

/-- The literal that has to follow, given the one that has to follow next. -/
def ahead (next : Option (Char → Bool)) : Opening → Option (Char → Bool)
  | nothing => next
  | literal accepts => some accepts
  | set _ | other => none

/-- Whether what is tested first fails on a text. -/
def excludes : Opening → List Char → Bool
  | literal accepts, text | set accepts, text => !startsWith accepts text
  | nothing, _ | other, _ => false

end Opening

end Regex

end NamePatterns
