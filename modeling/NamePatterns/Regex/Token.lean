/-!
# Tokens of Regular Expressions

The units in which a regular expression is read: characters that stand for
themselves or for an operator, and characters behind a backslash.

## Main definitions

* `Token`: A unit.
* `Token.ofChars?`: A text as units, unless it ends in a lone backslash.
* `Token.text`: The characters a unit was written with.

## Theorems

* `Token.ofChars?_append`: Complete texts split independently.
* `Token.text_ofChars?`: Units are written as they were read.
-/

namespace NamePatterns

namespace Regex

/-- A unit in which a regular expression is read. -/
inductive Token where
  /-- A character as it is. -/
  | plain (c : Char)
  /-- A character behind a backslash. -/
  | escaped (c : Char)
  deriving DecidableEq, Repr

namespace Token

/-- The character of a unit. -/
def char : Token → Char
  | plain c => c
  | escaped c => c

/-- The characters a unit was written with. -/
def text : Token → List Char
  | plain c => [c]
  | escaped c => ['\\', c]

/-- How many characters a unit was written with. -/
def width (t : Token) : Nat :=
  t.text.length

/-- A text as units; nothing if a backslash at its end escapes nothing. -/
def ofChars? : List Char → Option (List Token)
  | [] => some []
  | '\\' :: c :: cs => (ofChars? cs).map (escaped c :: ·)
  | c :: cs => if c = '\\' then none else (ofChars? cs).map (plain c :: ·)

/-- Complete texts split independently of what follows them. -/
theorem ofChars?_append {xs : List Char} {ts : List Token} (h : ofChars? xs = some ts)
    (ys : List Char) : ofChars? (xs ++ ys) = (ofChars? ys).map (ts ++ ·) := by
  fun_induction ofChars? xs generalizing ts with
  | case1 =>
    obtain rfl : [] = ts := by simpa using h
    simp
  | case2 c cs ih =>
    obtain ⟨us, hus, rfl⟩ := Option.map_eq_some_iff.mp h
    simp only [List.cons_append, ofChars?, ih hus, Option.map_map]
    rfl
  | case3 => simp at h
  | case4 c cs hne hc ih =>
    obtain ⟨us, hus, rfl⟩ := Option.map_eq_some_iff.mp h
    rw [List.cons_append, ofChars?.eq_3 _ _ (by rintro d ds rfl; exact absurd rfl hc), if_neg hc,
      ih hus, Option.map_map]
    rfl

/-- Units are written as they were read. -/
theorem text_ofChars? {xs : List Char} {ts : List Token} (h : ofChars? xs = some ts) :
    ts.flatMap text = xs := by
  fun_induction ofChars? xs generalizing ts with
  | case1 =>
    obtain rfl : [] = ts := by simpa using h
    rfl
  | case2 c cs ih =>
    obtain ⟨us, hus, rfl⟩ := Option.map_eq_some_iff.mp h
    simp [text, ih hus]
  | case3 => simp at h
  | case4 c cs hne hc ih =>
    obtain ⟨us, hus, rfl⟩ := Option.map_eq_some_iff.mp h
    simp [text, ih hus]

end Token

end Regex

end NamePatterns
