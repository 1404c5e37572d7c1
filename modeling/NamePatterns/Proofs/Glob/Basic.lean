import NamePatterns.Proofs.Regex.Language
import NamePatterns.Regex.Token
import NamePatterns.Wildcard

/-!
# Flat Wildcards

What wildcards mean when no bracket stands inside another or closes too early.

Such a wildcard is a row of tokens: characters that stand for themselves, with
or without a backslash, stars, question marks, dashes, and classes. Each token
has a text, which the wildcard is written with, and a language, which is what
the token matches. Neither speaks of regular expressions. A backslash may be
left over at the end; it stands for nothing.

A class lists single characters and ranges. Brackets, backslashes and dashes
cannot be listed, since they would end the class, escape what follows or make a
range, and an exclamation mark that comes first would negate the class.

The languages are those of a reader who has never seen a regular expression. A
star and a question mark match no line feed, as the dot they are written as does
not; this is the one place where the writing shows.

## Main definitions

* `Glob.Token`: A token.
* `Glob.Token.WellFormed`: Which tokens can be written.
* `Glob.text`: The text of a wildcard.
* `Glob.language`: What a wildcard matches.
-/

namespace NamePatterns

namespace Glob

open Regex (oneChar manyChars)

/-- A token of a flat wildcard. -/
inductive Token where
  /-- A character that stands for itself. -/
  | literal (c : Char)
  /-- A star. -/
  | star
  /-- A question mark. -/
  | question
  /-- A dash. -/
  | dash
  /-- A character behind a backslash. -/
  | escaped (c : Char)
  /-- A class of characters. -/
  | oneOf (negated : Bool) (items : List SetItem)
  deriving DecidableEq, Repr

/-- Whether a character means something else than itself. -/
def isSpecial (c : Char) : Bool :=
  c = '*' || c = '?' || c = '[' || c = ']' || c = '\\' || c = '-'

/-- Whether a character can be listed in a class. -/
def isListable (c : Char) : Bool :=
  !(c = '[' || c = ']' || c = '\\' || c = '-')

/-- The items whose characters can be listed, whether a range is empty or not. -/
def ItemListable : SetItem → Prop
  | .single c => isListable c = true
  | .range low high => isListable low = true ∧ isListable high = true

instance (i : SetItem) : Decidable (ItemListable i) :=
  match i with
  | .single c => inferInstanceAs (Decidable (isListable c = true))
  | .range low high =>
    inferInstanceAs (Decidable (isListable low = true ∧ isListable high = true))

/-- The items that can be written in a class: a range is not empty. -/
def ItemWellFormed : SetItem → Prop
  | .single c => isListable c = true
  | .range low high => isListable low = true ∧ isListable high = true ∧ low ≤ high

instance (i : SetItem) : Decidable (ItemWellFormed i) :=
  match i with
  | .single c => inferInstanceAs (Decidable (isListable c = true))
  | .range low high =>
    inferInstanceAs (Decidable (isListable low = true ∧ isListable high = true ∧ low ≤ high))

theorem ItemWellFormed.listable {i : SetItem} (h : ItemWellFormed i) : ItemListable i := by
  cases i with
  | single c => exact h
  | range low high => exact ⟨h.1, h.2.1⟩

/-- The first character that an item is written with. -/
def firstChar : SetItem → Char
  | .single c => c
  | .range low _ => low

/-- The tokens that can be written. A dash that begins words cannot be escaped,
    and a class holds an item and does not look negated if it is not. -/
def Token.WellFormed (dashes : Bool) : Token → Prop
  | literal c => isSpecial c = false
  | star | question | dash => True
  | escaped c => dashes = true → c ≠ '-'
  | oneOf negated items =>
    items ≠ [] ∧ (∀ i ∈ items, ItemWellFormed i) ∧
      (negated = false → items.head?.map firstChar ≠ some '!')

instance (dashes : Bool) (t : Token) : Decidable (t.WellFormed dashes) :=
  match t with
  | .literal c => inferInstanceAs (Decidable (isSpecial c = false))
  | .star | .question | .dash => inferInstanceAs (Decidable True)
  | .escaped c => inferInstanceAs (Decidable (dashes = true → c ≠ '-'))
  | .oneOf negated items =>
    inferInstanceAs (Decidable (items ≠ [] ∧ (∀ i ∈ items, ItemWellFormed i) ∧
      (negated = false → items.head?.map firstChar ≠ some '!')))

/-- What an item is written as. -/
def itemText : SetItem → List Char
  | .single c => [c]
  | .range low high => [low, '-', high]

/-- What a token is written as. -/
def Token.text : Token → List Char
  | literal c => [c]
  | star => ['*']
  | question => ['?']
  | dash => ['-']
  | escaped c => ['\\', c]
  | oneOf negated items =>
    '[' :: ((if negated then ['!'] else []) ++ items.flatMap itemText ++ [']'])

/-- What a wildcard is written as, with or without a backslash left over. -/
def text (g : List Token) (leftOver : Bool) : List Char :=
  g.flatMap Token.text ++ (if leftOver then ['\\'] else [])

/-- Whether a character can begin a word inside a name. -/
def beginsWord (c : Char) : Bool :=
  ('A' ≤ c && c ≤ 'Z') || ('0' ≤ c && c ≤ '9')

/-- What a token matches. -/
def Token.language (dashes : Bool) : Token → Language Char
  | literal c | escaped c => oneChar (· == c)
  | star => manyChars (· != '\n')
  | question => oneChar (· != '\n')
  | dash => oneChar (if dashes then beginsWord else (· == '-'))
  | oneOf negated items => oneChar fun c => items.any (·.contains c) != negated

/-- What a wildcard matches. -/
def language (dashes : Bool) (g : List Token) : Language Char :=
  (g.map (Token.language dashes)).prod

end Glob

end NamePatterns
