import NamePatterns.Decimal.Shortest

/-!
# Timestamps

Moments as calendar dates and times of day in universal time.

A moment is counted in millionths of a second from the start of 1970. Of a
number of seconds, the whole ones are kept as they are and the rest is scaled
to millionths before it is rounded, ties to the even one. Days are counted in
cycles of four hundred years that start in March, so that the leap day comes
last in each year.

## Main definitions

* `Timestamp.ofSeconds`: The moment that a number of seconds stands for.
* `Timestamp.civil`: The calendar date of a day.
* `Timestamp.Fault`: Why a moment has no text.
* `Timestamp.text`: A moment in text.
-/

namespace NamePatterns

namespace Timestamp

/-- A quotient rounded to the nearest integer, ties to the even one. -/
def roundedQuotient (n d : Nat) : Nat :=
  let q := n / d
  let r := n % d
  if 2 * r < d then q else if d < 2 * r then q + 1 else q + q % 2

/-- A number rounded to the nearest integer, ties to the even one. What is
    infinite counts as more than any moment that has a text. -/
def nearestInteger (x : Float) : Int :=
  match Decimal.classify x with
  | .notANumber | .naught _ => 0
  | .infinite negative => if negative then -(Nat.pow 2 64 : Int) else Nat.pow 2 64
  | .finite negative magnitude =>
    let (n, d) := Decimal.fraction magnitude.mantissa magnitude.exponent 0
    if negative then -(roundedQuotient n d : Int) else roundedQuotient n d

/-- How many millionths of a second make a second. -/
def second : Int := 1000000

/-- The moment that a number of seconds stands for. -/
def ofSeconds (x : Float) : Int :=
  let whole := if x < 0 then x.ceil else x.floor
  nearestInteger whole * second + nearestInteger ((x - whole) * 1000000)

/-- The year, the month and the day of a day, counted from the start of
    1970. -/
def civil (day : Int) : Int × Nat × Nat :=
  -- From the first of March of the year zero on.
  let shifted := day + 719468
  let cycle := shifted.fdiv 146097
  let inCycle := (shifted.fmod 146097).toNat
  let year := (inCycle - inCycle / 1460 + inCycle / 36524 - inCycle / 146096) / 365
  let inYear := inCycle - (365 * year + year / 4 - year / 100)
  let fromMarch := (5 * inYear + 2) / 153
  let dayOfMonth := inYear - (153 * fromMarch + 2) / 5 + 1
  let month := if fromMarch < 10 then fromMarch + 3 else fromMarch - 9
  (cycle * 400 + year + (if month ≤ 2 then 1 else 0), month, dayOfMonth)

/-- A number with leading zeros. -/
def padded (width n : Nat) : String :=
  let ds := Nat.toDigits 10 n
  String.ofList (List.replicate (width - ds.length) '0' ++ ds)

/-- The time of a day in text, from the millionths of a second since its
    start; a fraction is written only where there is one. -/
def timeText (micros : Nat) : String :=
  let seconds := micros / 1000000
  let fraction := micros % 1000000
  padded 2 (seconds / 3600) ++ ":" ++ padded 2 (seconds / 60 % 60) ++ ":" ++ padded 2 (seconds % 60)
    ++ (if fraction = 0 then "" else "." ++ padded 6 fraction)

/-- Why a moment has no text. -/
inductive Fault where
  /-- Its seconds do not fit into 64 bits. -/
  | seconds
  /-- Its year, counted from 1900, does not fit into 32 bits. -/
  | calendar
  /-- Its year has no four digits. -/
  | year (n : Int)
  deriving DecidableEq, Repr

/-- The wording of a fault. -/
def Fault.message : Fault → String
  | .seconds => "timestamp out of range for platform time_t"
  | .calendar => "[Errno 75] Value too large for defined data type"
  | .year n => "year " ++ toString n ++ " is out of range"

/-- Whether an integer fits into a number of bits, one of which is its sign. -/
def fits (bits : Nat) (n : Int) : Bool :=
  -(Nat.pow 2 (bits - 1) : Int) ≤ n && n < Nat.pow 2 (bits - 1)

/-- A moment in text. A year that fits into 32 bits only when it is counted
    from 1900 is reported as its remainder. -/
def text (moment : Int) : Except Fault String :=
  let day := second * 86400
  let (year, month, dayOfMonth) := civil (moment.fdiv day)
  if !fits 64 (moment.fdiv second) then .error .seconds
  else if !fits 32 (year - 1900) then .error .calendar
  else if year < 1 || 9999 < year then .error (.year (year.bmod (Nat.pow 2 32)))
  else
    .ok (padded 4 year.toNat ++ "-" ++ padded 2 month ++ "-" ++ padded 2 dayOfMonth ++ "T"
      ++ timeText (moment.fmod day).toNat ++ "+00:00")

end Timestamp

end NamePatterns
