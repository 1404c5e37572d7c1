import NamePatterns.Decimal.Shortest
import NamePatterns.Text.Integer
import NamePatterns.Toml.Error
import NamePatterns.Value

/-!
# TOML Scalars

Strings, numbers and points in time at the start of a text.

Every reader returns what it has read and the rest of the text. Readers of
numbers and times answer nothing where the text starts with something else, so
that the next kind can be tried; readers of strings are called once the quote
has been seen, and report what is wrong.

## Main definitions

* `Toml.skipBlanks`, `Toml.skipComment`: What stands between values.
* `Toml.literalString`, `Toml.basicString`: Strings on one line.
* `Toml.stringValue`: A string of any kind.
* `Toml.temporal?`, `Toml.number?`, `Toml.special?`: Times and numbers.
-/

namespace NamePatterns

namespace Toml

/-- A reader of a part of a text. -/
abbrev Reader (α : Type) := List Char → Except Refusal (α × List Char)

/-- Whether a character is a blank inside a line. -/
def isBlank (c : Char) : Bool :=
  c = ' ' || c = '\t'

/-- A text without the blanks at its start. -/
def skipBlanks (cs : List Char) : List Char :=
  cs.dropWhile isBlank

/-- Whether a character may not stand in strings and comments: a control
    character other than the tab, and the line feed unless lines may follow
    each other. -/
def isForbidden (lines : Bool) (c : Char) : Bool :=
  (c.toNat < 0x20 || c.toNat = 0x7f) && c != '\t' && !(lines && c = '\n')

/-- Refuses the first forbidden character of a stretch; `rest` starts with the
    stretch. -/
def checkStretch (lines : Bool) : (stretch rest : List Char) → Except Refusal Unit
  | [], _ => .ok ()
  | c :: cs, rest =>
    if isForbidden lines c then fail rest (.invalidCharacter c)
    else checkStretch lines cs (rest.drop 1)

/-- A text without the comment at its start. -/
def skipComment (cs : List Char) : Except Refusal (List Char) :=
  match cs with
  | '#' :: rest => do
    checkStretch false (rest.takeWhile (· != '\n')) rest
    return rest.dropWhile (· != '\n')
  | _ => .ok cs

/-- A text up to a terminator, and what follows the terminator. -/
def splitAt? (terminator : List Char) : List Char → Option (List Char × List Char)
  | [] => none
  | c :: cs =>
    if terminator.isPrefixOf (c :: cs) then some ([], (c :: cs).drop terminator.length)
    else (splitAt? terminator cs).map fun (s, rest) => (c :: s, rest)

/-- A literal string up to its terminator. -/
def literalUntil (lines : Bool) (terminator : List Char) : Reader (List Char) := fun cs =>
  match splitAt? terminator cs with
  | none => fail [] (.endExpected terminator)
  | some (s, rest) => do
    checkStretch lines s cs
    return (s, rest)

/-- A literal string on one line, after its opening quote. -/
def literalString : Reader (List Char) :=
  literalUntil false ['\'']

/-- A character given by a number of digits in base sixteen. -/
def hexChar (digits : Nat) : Reader Char := fun cs =>
  let ds := cs.take digits
  let values := ds.filterMap Text.hexValue?
  if values.length < digits then fail cs .hexValue
  else
    let n := values.foldl (fun n d => n * 16 + d) 0
    let rest := cs.drop digits
    if n < 0xD800 || (0xE000 ≤ n && n < 0x110000) then .ok (Char.ofNat n, rest)
    else fail rest .notScalar

/-- What a backslash stands for, with the character behind it. An escaped end
    of a line, possible where lines follow each other, swallows all space that
    follows. -/
def escape (lines : Bool) : Reader (List Char) := fun cs =>
  let one (c : Char) (rest : List Char) : Except Refusal (List Char × List Char) :=
    .ok ([c], rest)
  match cs with
  | 'b' :: rest => one '\x08' rest
  | 't' :: rest => one '\t' rest
  | 'n' :: rest => one '\n' rest
  | 'f' :: rest => one '\x0c' rest
  | 'r' :: rest => one '\r' rest
  | '"' :: rest => one '"' rest
  | '\\' :: rest => one '\\' rest
  | 'u' :: rest => (hexChar 4 rest).map fun (c, rest) => ([c], rest)
  | 'U' :: rest => (hexChar 8 rest).map fun (c, rest) => ([c], rest)
  | c :: rest =>
    if lines && (isBlank c || c = '\n') then
      let isSpace (c : Char) : Bool := isBlank c || c = '\n'
      if c = '\n' then .ok ([], rest.dropWhile isSpace)
      else
        match skipBlanks rest with
        | [] => .ok ([], [])
        | '\n' :: rest => .ok ([], rest.dropWhile isSpace)
        | rest => fail rest .badEscape
    else fail rest .badEscape
  | [] => fail [] .badEscape

/-- The rest of a string after its opening quotes, one quote long or, where
    lines may follow each other, three. -/
def basicRest (lines : Bool) : (fuel : Nat) → Reader (List Char)
  | 0, _ => fail [] .unterminatedString
  | _ + 1, [] => fail [] .unterminatedString
  | fuel + 1, '"' :: rest =>
    if !lines then .ok ([], rest)
    else
      match rest with
      | '"' :: '"' :: rest => .ok ([], rest)
      | _ => (basicRest lines fuel rest).map fun (s, rest) => ('"' :: s, rest)
  | fuel + 1, '\\' :: rest => do
    let (part, rest) ← escape lines rest
    let (s, rest) ← basicRest lines fuel rest
    return (part ++ s, rest)
  | fuel + 1, c :: rest =>
    if isForbidden lines c then fail (c :: rest) (.illegalCharacter c)
    else (basicRest lines fuel rest).map fun (s, rest) => (c :: s, rest)

/-- A string on one line, after its opening quote. -/
def basicString : Reader (List Char) := fun cs =>
  basicRest false (cs.length + 1) cs

/-- Up to two more quotes that belong to a string of several lines. -/
def trailingQuotes (q : Char) (s : List Char) : List Char → List Char × List Char
  | c :: d :: rest =>
    if c != q then (s, c :: d :: rest)
    else if d != q then (s ++ [q], d :: rest)
    else (s ++ [q, q], rest)
  | [c] => if c != q then (s, [c]) else (s ++ [q], [])
  | [] => (s, [])

/-- A text without a line feed at its start. -/
def skipFeed : List Char → List Char
  | '\n' :: cs => cs
  | cs => cs

/-- A string of any kind, if the text starts with a quote. -/
def stringValue (cs : List Char) : Option (Except Refusal (List Char × List Char)) :=
  match cs with
  | '"' :: '"' :: '"' :: rest =>
    some do
      let rest := skipFeed rest
      let (s, rest) ← basicRest true (rest.length + 1) rest
      return trailingQuotes '"' s rest
  | '"' :: rest => some (basicString rest)
  | '\'' :: '\'' :: '\'' :: rest =>
    some do
      let (s, rest) ← literalUntil true ['\'', '\'', '\''] (skipFeed rest)
      return trailingQuotes '\'' s rest
  | '\'' :: rest => some (literalString rest)
  | _ => none

/-- A number of exactly so many digits. -/
def digits? (count : Nat) (cs : List Char) : Option (Nat × List Char) :=
  let ds := cs.take count
  if ds.length = count && ds.all Char.isDigit then some (Text.digitsValue ds, cs.drop count)
  else none

/-- A number of two digits between bounds. -/
def twoDigits? (low high : Nat) (cs : List Char) : Option (Nat × List Char) := do
  let (n, rest) ← digits? 2 cs
  if low ≤ n && n ≤ high then return (n, rest) else none

/-- A text without a given character at its start. -/
def expect? (c : Char) : List Char → Option (List Char)
  | [] => none
  | d :: cs => if d = c then some cs else none

/-- A fraction of a second in millionths, from its digits; those beyond the
    sixth are dropped. -/
def micros (ds : List Char) : Nat :=
  let ds := ds.take 6
  Text.digitsValue ds * Nat.pow 10 (6 - ds.length)

/-- A time of day. -/
def time? (cs : List Char) : Option (TimeOfDay × List Char) := do
  let (hour, cs) ← twoDigits? 0 23 cs
  let cs ← expect? ':' cs
  let (minute, cs) ← twoDigits? 0 59 cs
  let cs ← expect? ':' cs
  let (second, cs) ← twoDigits? 0 59 cs
  match cs with
  | '.' :: rest =>
    let ds := rest.takeWhile Char.isDigit
    if ds.isEmpty then return (⟨hour, minute, second, 0⟩, cs)
    else return (⟨hour, minute, second, micros ds⟩, rest.dropWhile Char.isDigit)
  | _ => return (⟨hour, minute, second, 0⟩, cs)

/-- A calendar date; whether the day exists is not checked. -/
def date? (cs : List Char) : Option (Date × List Char) := do
  let (year, cs) ← digits? 4 cs
  let cs ← expect? '-' cs
  let (month, cs) ← twoDigits? 1 12 cs
  let cs ← expect? '-' cs
  let (day, cs) ← twoDigits? 1 31 cs
  return (⟨year, month, day⟩, cs)

/-- The distance from universal time, in minutes, if one follows. -/
def offset (cs : List Char) : Option Int × List Char :=
  let distance? (rest : List Char) : Option (Nat × List Char) := do
    let (hours, rest) ← twoDigits? 0 23 rest
    let rest ← expect? ':' rest
    let (minutes, rest) ← twoDigits? 0 59 rest
    return (hours * 60 + minutes, rest)
  match cs with
  | 'Z' :: rest | 'z' :: rest => (some 0, rest)
  | '+' :: rest =>
    match distance? rest with
    | some (n, rest) => (some n, rest)
    | none => (none, cs)
  | '-' :: rest =>
    match distance? rest with
    | some (n, rest) => (some (-(n : Int)), rest)
    | none => (none, cs)
  | _ => (none, cs)

/-- Whether a year has a day more. -/
def isLeapYear (year : Nat) : Bool :=
  year % 4 = 0 && (year % 100 != 0 || year % 400 = 0)

/-- How many days a month has. -/
def daysIn (year month : Nat) : Nat :=
  if month = 2 then (if isLeapYear year then 29 else 28)
  else if month = 4 || month = 6 || month = 9 || month = 11 then 30
  else 31

/-- Whether a date exists; there is no year zero. -/
def dateExists (d : Date) : Bool :=
  1 ≤ d.year && d.day ≤ daysIn d.year d.month

/-- A date, a time, or both, if the text starts with one. -/
def temporal? (cs : List Char) : Option (Except Refusal (Temporal × List Char)) :=
  match date? cs with
  | some (d, rest) =>
    let (t, rest) : Temporal × List Char :=
      match rest with
      | c :: after =>
        if c = 'T' || c = 't' || c = ' ' then
          match time? after with
          | some (t, rest) =>
            let (o, rest) := offset rest
            (.dateTime d t o, rest)
          | none => (.date d, rest)
        else (.date d, rest)
      | [] => (.date d, rest)
    some (if dateExists d then .ok (t, rest) else fail cs .invalidDate)
  | none => (time? cs).map fun (t, rest) => .ok (.time t, rest)

/-- Digits with single underscores between them: the digits and the rest. -/
def digitRun (isDigit : Char → Bool) : List Char → List Char × List Char
  | [] => ([], [])
  | [c] => if isDigit c then ([c], []) else ([], [c])
  | '_' :: c :: cs => ([], '_' :: c :: cs)
  | c :: '_' :: d :: cs =>
    if !isDigit c then ([], c :: '_' :: d :: cs)
    else if !isDigit d then ([c], '_' :: d :: cs)
    else
      let (ds, rest) := digitRun isDigit (d :: cs)
      (c :: ds, rest)
  | c :: d :: cs =>
    if !isDigit c then ([], c :: d :: cs)
    else
      let (ds, rest) := digitRun isDigit (d :: cs)
      (c :: ds, rest)

/-- An integer in a base of two, eight or sixteen, after its zero and the
    letter of its base. -/
def based? (base : Nat) (cs : List Char) : Option (Value × List Char) :=
  let isDigit (c : Char) : Bool := (Text.hexValue? c).any (· < base)
  match digitRun isDigit cs with
  | ([], _) => none
  | (ds, rest) =>
    let n := (ds.filterMap Text.hexValue?).foldl (fun n d => n * base + d) 0
    some (.int n, rest)

/-- The digits behind a point, if some follow. -/
def fractionDigits? : List Char → Option (List Char × List Char)
  | '.' :: cs =>
    match digitRun Char.isDigit cs with
    | ([], _) => none
    | r => some r
  | _ => none

/-- A power of ten, if one follows. -/
def power? : List Char → Option (Int × List Char)
  | e :: cs =>
    if e = 'e' || e = 'E' then
      let (down, cs) :=
        match cs with
        | '-' :: cs => (true, cs)
        | '+' :: cs => (false, cs)
        | _ => (false, cs)
      match digitRun Char.isDigit cs with
      | ([], _) => none
      | (ds, rest) =>
        let n : Int := Text.digitsValue ds
        some (if down then -n else n, rest)
    else none
  | [] => none

/-- A number in base ten, without its sign. -/
def decimal? (negative : Bool) (cs : List Char) :
    Option (Except Refusal (Value × List Char)) :=
  let (whole, rest) :=
    match cs with
    | '0' :: rest => (['0'], rest)
    | _ => digitRun Char.isDigit cs
  if whole.isEmpty then none
  else
    let (fraction, afterFraction) :=
      match fractionDigits? rest with
      | some (ds, rest) => (ds, rest)
      | none => ([], rest)
    match power? afterFraction, fraction with
    | none, [] =>
      some
        (if Text.digitLimit < whole.length then .error (.tooManyDigits ⟨whole.length⟩)
        else
          let n : Int := Text.digitsValue whole
          .ok (.int (if negative then -n else n), rest))
    | power, ds =>
      let (exponent, rest) := power.getD (0, afterFraction)
      let digits := Text.digitsValue (whole ++ ds)
      some (.ok (.float (Decimal.nearest negative ⟨digits, exponent - ds.length⟩), rest))

/-- A number, if the text starts with one. -/
def number? (cs : List Char) : Option (Except Refusal (Value × List Char)) :=
  let inBase : Option (Value × List Char) :=
    match cs with
    | '0' :: 'x' :: rest => based? 16 rest
    | '0' :: 'o' :: rest => based? 8 rest
    | '0' :: 'b' :: rest => based? 2 rest
    | _ => none
  match inBase with
  | some r => some (.ok r)
  | none =>
    match cs with
    | '-' :: rest => decimal? true rest
    | '+' :: rest => decimal? false rest
    | _ => decimal? false cs

/-- Infinity or what is not a number, if the text starts with one. -/
def special? (cs : List Char) : Option (Value × List Char) :=
  let infinity := Float.ofBits 0x7ff0000000000000
  let notANumber := Float.ofBits 0x7ff8000000000000
  match cs with
  | 'i' :: 'n' :: 'f' :: rest | '+' :: 'i' :: 'n' :: 'f' :: rest => some (.float infinity, rest)
  | '-' :: 'i' :: 'n' :: 'f' :: rest => some (.float (-infinity), rest)
  | 'n' :: 'a' :: 'n' :: rest | '+' :: 'n' :: 'a' :: 'n' :: rest
  | '-' :: 'n' :: 'a' :: 'n' :: rest => some (.float notANumber, rest)
  | _ => none

end Toml

end NamePatterns
