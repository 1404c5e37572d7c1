/-!
# Shortest Decimals

The decimal with the fewest digits that reads back as a given binary
floating-point number.

A finite number is `m * 2 ^ q`. Every real strictly nearer to it than to its
neighbours reads back as it, and so do the two ends of that interval when `m`
is even. On the grid of decimals with a fixed number of digits the candidates
are the two points around the number; the first grid with a candidate inside
the interval wins, then the nearer of two candidates, then the even one. All
of this is arithmetic on natural numbers.

## Main definitions

* `Dyadic`: A positive number `m * 2 ^ q`, with the width of the gap below it.
* `FloatClass`: A floating-point number taken apart.
* `classify`: Taking a floating-point number apart.
* `Scientific`: A number `digits * 10 ^ exponent`.
* `shortest`: The shortest decimal of a number.
* `nearest`: The floating-point number nearest to a decimal.
-/

namespace NamePatterns

namespace Decimal

/-- A positive number `mantissa * 2 ^ exponent`. -/
structure Dyadic where
  /-- The integer that is scaled. -/
  mantissa : Nat
  /-- The power of two that scales it. -/
  exponent : Int
  /-- Whether the gap to the number below is half as wide as the one above. -/
  narrowBelow : Bool
  deriving DecidableEq, Repr

/-- A floating-point number taken apart. -/
inductive FloatClass where
  /-- Not a number. -/
  | notANumber
  /-- An infinity, with its sign. -/
  | infinite (negative : Bool)
  /-- A zero, with its sign. -/
  | naught (negative : Bool)
  /-- Any other number: its sign and its magnitude. -/
  | finite (negative : Bool) (magnitude : Dyadic)
  deriving DecidableEq, Repr

/-- Takes a floating-point number apart. -/
def classify (x : Float) : FloatClass :=
  let bits := x.toBits.toNat
  let negative := bits / Nat.pow 2 63 == 1
  let biased : Nat := bits / Nat.pow 2 52 % Nat.pow 2 11
  let low52 : Nat := bits % Nat.pow 2 52
  if biased == 2047 then
    if low52 == 0 then .infinite negative else .notANumber
  else if biased == 0 then
    if low52 == 0 then .naught negative else .finite negative ⟨low52, -1074, false⟩
  else
    .finite negative ⟨Nat.pow 2 52 + low52, (biased : Int) - 1075, low52 == 0 && biased != 1⟩

/-- A number `digits * 10 ^ exponent`. -/
structure Scientific where
  /-- The digits, as one integer. -/
  digits : Nat
  /-- The power of ten that scales them. -/
  exponent : Int
  deriving DecidableEq, Repr

/-- `n * 2 ^ a * 10 ^ b` as a fraction. -/
def fraction (n : Nat) (a b : Int) : Nat × Nat :=
  (n * Nat.pow 2 a.toNat * Nat.pow 10 b.toNat, Nat.pow 2 (-a).toNat * Nat.pow 10 (-b).toNat)

/-- How many of `fuel` divisions by ten a number takes to fall below ten. -/
def tens : (fuel : Nat) → Nat → Nat
  | 0, _ => 0
  | fuel + 1, n => if n < 10 then 0 else tens fuel (n / 10) + 1

/-- The least number of multiplications by ten, up to `fuel`, that lifts
    `n / d` to one or above. -/
def lifts : (fuel : Nat) → (n d : Nat) → Nat
  | 0, _, _ => 0
  | fuel + 1, n, d => if d ≤ n then 0 else lifts fuel (n * 10) d + 1

/-- The power of ten of the leading digit of a number. -/
def leadingPower (x : Dyadic) : Int :=
  let (n, d) := fraction x.mantissa x.exponent 0
  if d ≤ n then tens 400 (n / d) else -(lifts 400 n d : Int)

/-- Whether `candidate * 10 ^ e` reads back as a number. -/
def readsBack (x : Dyadic) (e : Int) (candidate : Nat) : Bool :=
  -- All in quarters of the unit of the mantissa, over the power of ten.
  let (n, d) := fraction 1 (x.exponent - 2) (-e)
  let low := (4 * x.mantissa - (if x.narrowBelow then 1 else 2)) * n
  let high := (4 * x.mantissa + 2) * n
  let here := candidate * d
  if x.mantissa % 2 == 0 then low ≤ here && here ≤ high else low < here && here < high

/-- The better of the two points of a grid around a number, if one reads back. -/
def onGrid? (x : Dyadic) (e : Int) : Option Nat :=
  let (n, d) := fraction x.mantissa x.exponent (-e)
  let below := n / d
  let above := below + 1
  match readsBack x e below, readsBack x e above with
  | false, false => none
  | true, false => some below
  | false, true => some above
  | true, true =>
    -- Which is nearer: twice the remainder against the width of the grid.
    let twice := 2 * (n % d)
    if twice < d then some below
    else if d < twice then some above
    else if below % 2 == 0 then some below else some above

/-- The first grid with a candidate, from the coarsest on. -/
def firstGrid (x : Dyadic) : (fuel : Nat) → (e : Int) → Scientific
  | 0, e =>
    let (n, d) := fraction x.mantissa x.exponent (-e)
    ⟨n / d, e⟩
  | fuel + 1, e =>
    match onGrid? x e with
    | some digits => ⟨digits, e⟩
    | none => firstGrid x fuel (e - 1)

/-- Moves trailing zeros of the digits into the exponent. -/
def dropZeros : (fuel : Nat) → Scientific → Scientific
  | 0, s => s
  | fuel + 1, s =>
    if s.digits != 0 && s.digits % 10 == 0 then dropZeros fuel ⟨s.digits / 10, s.exponent + 1⟩
    else s

/-- The shortest decimal that reads back as a number; seventeen digits are
    always enough. -/
def shortest (x : Dyadic) : Scientific :=
  dropZeros 20 (firstGrid x 17 (leadingPower x))

/-- The floating-point number nearest to a decimal. Exponents beyond the range
    of all numbers are not worked out. -/
def nearest (negative : Bool) (s : Scientific) : Float :=
  let size := (Nat.toDigits 10 s.digits).length
  let magnitude : Float :=
    if s.digits == 0 then 0
    else if s.exponent + size > 400 then Float.ofBits 0x7ff0000000000000
    else if s.exponent + size < -400 then 0
    else if 0 ≤ s.exponent then Float.ofScientific s.digits false s.exponent.toNat
    else Float.ofScientific s.digits true (-s.exponent).toNat
  if negative then -magnitude else magnitude

end Decimal

end NamePatterns
