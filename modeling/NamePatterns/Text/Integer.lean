import NamePatterns.Text.Blank

/-!
# Integers in Text

Reading and writing integers, with a limit on their length.

Each script of Unicode 14 has its ten digits in a row, so a table of zeros is
enough to tell the value of a digit. Digits of any script count where an
integer is read, single underscores may separate them, and space around the
number is ignored.

A number of more than `digitLimit` digits is not converted, whichever way. A
text of that many digits is refused however small its value, since the digits
are counted before they are read. An integer is refused by its size.

Numbers in base sixteen have no limit, as nothing is converted there: each
digit stands for four bits.

## Main definitions

* `digitValue?`: The value of a decimal digit of any script.
* `hexDigit`, `hex`, `hexValue?`: Digits in base sixteen.
* `digitLimit`: How many digits are converted.
* `TooManyDigits`: The report on a text that is too long to be read.
* `WriteError`: The report on an integer that is too long to be written.
* `digitsValue`: The value of ASCII digits.
* `integer?`: A text as an integer.
* `IsShort`, `ofInteger`: Whether an integer can be written, and its text.

## Theorems

* `not_isShort_pow`: The least number that is too long.
-/

namespace NamePatterns

namespace Text

/-- The zeros of all scripts. -/
def digitZeros : List Nat :=
  [0x30, 0x660, 0x6f0, 0x7c0, 0x966, 0x9e6, 0xa66, 0xae6, 0xb66, 0xbe6, 0xc66, 0xce6, 0xd66,
   0xde6, 0xe50, 0xed0, 0xf20, 0x1040, 0x1090, 0x17e0, 0x1810, 0x1946, 0x19d0, 0x1a80, 0x1a90,
   0x1b50, 0x1bb0, 0x1c40, 0x1c50, 0xa620, 0xa8d0, 0xa900, 0xa9d0, 0xa9f0, 0xaa50, 0xabf0,
   0xff10, 0x104a0, 0x10d30, 0x11066, 0x110f0, 0x11136, 0x111d0, 0x112f0, 0x11450, 0x114d0,
   0x11650, 0x116c0, 0x11730, 0x118e0, 0x11950, 0x11c50, 0x11d50, 0x11da0, 0x16a60, 0x16ac0,
   0x16b50, 0x1d7ce, 0x1d7d8, 0x1d7e2, 0x1d7ec, 0x1d7f6, 0x1e140, 0x1e2f0, 0x1e950, 0x1fbf0]

/-- The value of a decimal digit of any script. -/
def digitValue? (c : Char) : Option Nat :=
  (digitZeros.find? fun z => z ≤ c.toNat && c.toNat < z + 10).map (c.toNat - ·)

/-- The lower-case digit of a value below sixteen. -/
def hexDigit (n : Nat) : Char :=
  if n < 10 then Char.ofNat (n + '0'.toNat) else Char.ofNat (n - 10 + 'a'.toNat)

/-- The last `width` digits of a number in base sixteen. -/
def hex : (width : Nat) → Nat → List Char
  | 0, _ => []
  | width + 1, n => hex width (n / 16) ++ [hexDigit (n % 16)]

/-- The value of a digit in base sixteen, of either case. -/
def hexValue? (c : Char) : Option Nat :=
  if '0' ≤ c && c ≤ '9' then some (c.toNat - '0'.toNat)
  else if 'a' ≤ c && c ≤ 'f' then some (c.toNat - 'a'.toNat + 10)
  else if 'A' ≤ c && c ≤ 'F' then some (c.toNat - 'A'.toNat + 10)
  else none

/-- How many digits of a number are converted. -/
def digitLimit : Nat := 4300

/-- A number with more digits than are converted. -/
structure TooManyDigits where
  /-- How many digits it has. -/
  count : Nat
  deriving DecidableEq, Repr

/-- The report on such a number. -/
def TooManyDigits.message (e : TooManyDigits) : String :=
  "Exceeds the limit (" ++ toString digitLimit ++ " digits) for integer string conversion: "
    ++ "value has " ++ toString e.count
    ++ " digits; use sys.set_int_max_str_digits() to increase the limit"

/-- The value of a run of ASCII digits. -/
def digitsValue (ds : List Char) : Nat :=
  ds.foldl (fun n d => n * 10 + (d.toNat - '0'.toNat)) 0

/-- Whether a character may surround a number: a blank, separator controls
    excepted. -/
def isNumberSpace (c : Char) : Bool :=
  isBlank c && !(0x1C ≤ c.toNat && c.toNat ≤ 0x1F)

/-- Digits of any script, with single underscores between them. -/
def separatedDigits? : List Char → Option (List Nat)
  | [] => none
  | [c] => (digitValue? c).map ([·])
  | c :: '_' :: cs => do return (← digitValue? c) :: (← separatedDigits? cs)
  | c :: cs => do return (← digitValue? c) :: (← separatedDigits? cs)

/-- A text as an integer, if it is one and not too long. -/
def integer? (cs : List Char) : Option Int :=
  let cs := (cs.dropWhile isNumberSpace).reverse.dropWhile isNumberSpace |>.reverse
  let (negative, cs) :=
    match cs with
    | '-' :: rest => (true, rest)
    | '+' :: rest => (false, rest)
    | _ => (false, cs)
  match separatedDigits? cs with
  | none => none
  | some ds =>
    if digitLimit < ds.length then none
    else
      let n : Nat := ds.foldl (fun n d => n * 10 + d) 0
      some (if negative then -(n : Int) else n)

/-- Why an integer cannot be written. -/
inductive WriteError where
  /-- It has more digits than are converted. -/
  | tooManyDigits
  deriving DecidableEq, Repr

/-- The report on such an integer. Nothing is said of how many digits it has, since counting
    them would take writing them. -/
def WriteError.message : WriteError → String
  | tooManyDigits =>
    "Exceeds the limit (" ++ toString digitLimit ++ " digits) for integer string conversion; "
      ++ "use sys.set_int_max_str_digits() to increase the limit"

/-- Whether an integer is short enough to be written. Its sign does not count. -/
def IsShort (n : Int) : Prop :=
  n.natAbs < Nat.pow 10 digitLimit

instance (n : Int) : Decidable (IsShort n) :=
  inferInstanceAs (Decidable (_ < _))

/-- The least number that is too long to be written. -/
theorem not_isShort_pow : ¬IsShort (Int.ofNat (Nat.pow 10 digitLimit)) := by
  -- The power is never evaluated: it is kept as a variable.
  have hirrefl (n : Nat) : ¬(Int.ofNat n).natAbs < n := Nat.lt_irrefl n
  exact hirrefl _

-- The bound has thousands of digits, and a case split on what is known to be short would count
-- up to it.
attribute [irreducible] IsShort

/-- An integer as a text, if it is short enough to be written. -/
def ofInteger (n : Int) : Except WriteError String :=
  if IsShort n then .ok (toString n) else .error .tooManyDigits

end Text

end NamePatterns
